/-
An order through its tables: when it is read back as the order that was added.
-/
import ShemaPlatform.OrderTotals
import ShemaPlatform.RepositoryRules

namespace ShemaPlatform

open ReadCommitted ReadCommitted.Prog

/-- The columns hold the quantity and the price as they are. -/
structure OrderLine.Storable (line : OrderLine) : Prop where
  quantity : ∃ units : ℤ, 0 < units ∧ units < 10 ^ 20 ∧
    line.quantity = .finite (units / 10 ^ 8)
  price : line.unitPrice.cents * 10 ^ 6 < 10 ^ 20

namespace OrderLineRow

variable {line : OrderLine} {row : OrderLineRow} {lines : List OrderLine}
  {rows : List OrderLineRow}

theorem ofLine_eq_ok (h : line.Built) :
    ofLine line = .ok row ↔ ∃ value : ℚ, line.quantity = .finite value ∧
      0 < Decimal.roundHalfUp (value * 10 ^ 8) ∧
      Decimal.roundHalfUp (value * 10 ^ 8) < 10 ^ 20 ∧
      line.unitPrice.cents * 10 ^ 6 < 10 ^ 20 ∧
      row = ⟨line.lineId, line.description, Decimal.roundHalfUp (value * 10 ^ 8),
        line.unitPrice.cents * 10 ^ 6, line.unitPrice.currency⟩ := by
  have hprice := h.quantity_cases.1
  have hunits : Decimal.roundHalfUp (line.unitPrice.amount * 10 ^ 8) =
      line.unitPrice.cents * 10 ^ 6 := by
    rw [← Decimal.roundHalfUp_intCast (line.unitPrice.cents * 10 ^ 6), Money.amount]
    congr 1
    push_cast
    ring
  have hlength : line.unitPrice.currency.length = 3 := by
    have hvalid := h.price.currency.1
    rw [currencyValid, Bool.and_eq_true, beq_iff_eq] at hvalid
    exact hvalid.1
  have hpositive : 0 ≤ line.unitPrice.cents * 10 ^ 6 := by positivity
  cases hquantity : line.quantity with
  | finite value =>
      simp only [ofLine, hquantity, bind_eq_ok, Decimal.toNumeric_eq_ok, hunits,
        require_eq_ok, decide_eq_true_eq, beq_iff_eq, hlength, pure_eq_ok, exists_const,
        true_and, Decimal.finite.injEq, exists_eq_left', abs_of_nonneg hpositive]
      constructor
      · rintro ⟨_, ⟨hfits, rfl⟩, hpos, _, ⟨hpriceFits, rfl⟩, _, rfl⟩
        exact ⟨hpos, lt_of_abs_lt hfits, hpriceFits, rfl⟩
      · rintro ⟨hpos, hfits, hpriceFits, rfl⟩
        exact ⟨_, ⟨by rwa [abs_of_pos hpos], rfl⟩, hpos, _, ⟨hpriceFits, rfl⟩, hpositive, rfl⟩
  | infinite negative =>
      simp [ofLine, hquantity, Decimal.toNumeric, bind_eq_ok]
  | nan =>
      simp [ofLine, hquantity, Decimal.toNumeric, bind_eq_ok]

theorem lineId_of_ofLine (h : line.Built) (hrow : ofLine line = .ok row) :
    row.lineId = line.lineId := by
  obtain ⟨_, _, _, _, _, rfl⟩ := (ofLine_eq_ok h).mp hrow
  rfl

theorem lineId_of_toLine (h : row.toLine = .ok line) : line.lineId = row.lineId := by
  simp only [toLine, bind_eq_ok] at h
  obtain ⟨price, _, hnew⟩ := h
  rw [OrderLine.new_eq_ok hnew]

/-- A line is stored and read back as itself exactly when the columns hold it. -/
theorem storable_iff (h : line.Built) :
    (∃ row, ofLine line = .ok row ∧ row.toLine = .ok line) ↔ line.Storable := by
  have hread : ∀ {value : ℚ} {units : ℤ}, line.quantity = .finite value →
      (toLine ⟨line.lineId, line.description, units, line.unitPrice.cents * 10 ^ 6,
        line.unitPrice.currency⟩ = .ok line ↔ value = units / 10 ^ 8) := by
    intro value units hquantity
    have hback : Decimal.roundHalfUp (((line.unitPrice.cents * 10 ^ 6 : ℤ) : ℚ) / 10 ^ 8 * 100) =
        line.unitPrice.cents := by
      have hunits : ((line.unitPrice.cents * 10 ^ 6 : ℤ) : ℚ) / 10 ^ 8 * 100 =
          (line.unitPrice.cents : ℚ) := by
        push_cast
        ring
      rw [hunits, Decimal.roundHalfUp_intCast]
    have hprice : Money.new (.finite (((line.unitPrice.cents * 10 ^ 6 : ℤ) : ℚ) / 10 ^ 8))
        line.unitPrice.currency = .ok line.unitPrice := by
      rw [h.price.new_eq_ok, hback]
      exact ⟨h.price.fits, rfl⟩
    simp only [toLine, hprice, bind_eq_ok, Except.ok.injEq, exists_eq_left']
    constructor
    · intro hnew
      have hsame := congrArg OrderLine.quantity (OrderLine.new_eq_ok hnew)
      rw [hquantity] at hsame
      exact Decimal.finite.inj hsame
    · rintro rfl
      rw [← hquantity]
      exact h.accepted
  constructor
  · rintro ⟨row, hrow, hline⟩
    obtain ⟨value, hquantity, hpos, hfits, hprice, rfl⟩ := (ofLine_eq_ok h).mp hrow
    exact ⟨⟨_, hpos, hfits, hquantity.trans (congrArg Decimal.finite
      ((hread hquantity).mp hline))⟩, hprice⟩
  · rintro ⟨⟨units, hpos, hfits, hquantity⟩, hprice⟩
    have hunits : Decimal.roundHalfUp ((units : ℚ) / 10 ^ 8 * 10 ^ 8) = units := by
      rw [div_mul_cancel₀ _ (by norm_num), Decimal.roundHalfUp_intCast]
    refine ⟨_, (ofLine_eq_ok h).mpr ⟨_, hquantity, ?_, ?_, hprice, rfl⟩, ?_⟩
    · rwa [hunits]
    · rwa [hunits]
    · rw [hunits]
      exact (hread hquantity).mpr rfl

theorem mapM_storable_iff (h : ∀ line ∈ lines, line.Built) :
    (∃ rows, lines.mapM ofLine = .ok rows ∧ rows.mapM toLine = .ok lines) ↔
      ∀ line ∈ lines, line.Storable := by
  induction lines with
  | nil => exact iff_of_true ⟨[], rfl, rfl⟩ (by simp)
  | cons line rest ih =>
      obtain ⟨hline, hrest⟩ := List.forall_mem_cons.mp h
      rw [List.forall_mem_cons, ← ih hrest, ← storable_iff hline]
      simp only [List.mapM_cons, bind_eq_ok, pure_eq_ok]
      constructor
      · rintro ⟨_, ⟨row, hrow, rows, hrows, rfl⟩, hread⟩
        simp only [List.mapM_cons, bind_eq_ok, pure_eq_ok, List.cons.injEq] at hread
        obtain ⟨_, hback, _, hbackRest, rfl, rfl⟩ := hread
        exact ⟨⟨row, hrow, hback⟩, rows, hrows, hbackRest⟩
      · rintro ⟨⟨row, hrow, hback⟩, rows, hrows, hbackRest⟩
        refine ⟨row :: rows, ⟨row, hrow, rows, hrows, rfl⟩, ?_⟩
        simp only [List.mapM_cons, bind_eq_ok, pure_eq_ok]
        exact ⟨line, hback, rest, hbackRest, rfl⟩

theorem map_lineId_of_ofLine (h : ∀ line ∈ lines, line.Built)
    (hrows : lines.mapM ofLine = .ok rows) : rows.map lineId = lines.map OrderLine.lineId := by
  induction lines generalizing rows with
  | nil =>
      obtain rfl := Except.ok.inj hrows
      rfl
  | cons line rest ih =>
      obtain ⟨hline, hrest⟩ := List.forall_mem_cons.mp h
      simp only [List.mapM_cons, bind_eq_ok, pure_eq_ok] at hrows
      obtain ⟨row, hrow, restRows, hrestRows, rfl⟩ := hrows
      rw [List.map_cons, List.map_cons, ih hrest hrestRows, lineId_of_ofLine hline hrow]

theorem map_lineId_of_toLine (hlines : rows.mapM toLine = .ok lines) :
    lines.map OrderLine.lineId = rows.map lineId := by
  induction rows generalizing lines with
  | nil =>
      obtain rfl := Except.ok.inj hlines
      rfl
  | cons row rest ih =>
      simp only [List.mapM_cons, bind_eq_ok, pure_eq_ok] at hlines
      obtain ⟨line, hline, restLines, hrest, rfl⟩ := hlines
      rw [List.map_cons, List.map_cons, ih hrest, lineId_of_toLine hline]

/-- The reader gives the lines back exactly when they were in its order already. -/
theorem readLines_eq_ok (h : ∀ line ∈ lines, line.Built)
    (hrows : lines.mapM ofLine = .ok rows) :
    readLines (some rows) = .ok lines ↔
      lines.Pairwise (fun a b => a.lineId ≤ b.lineId) ∧ rows.mapM toLine = .ok lines := by
  have hids := map_lineId_of_ofLine h hrows
  have hsorted : lines.Pairwise (fun a b => a.lineId ≤ b.lineId) ↔
      rows.Pairwise fun a b => a.lineId ≤ b.lineId := by
    rw [← List.pairwise_map (f := OrderLine.lineId) (R := (· ≤ ·)), ← hids,
      List.pairwise_map]
  rw [readLines, Option.getD_some]
  constructor
  · intro hread
    have hlines : lines.Pairwise fun a b => a.lineId ≤ b.lineId := by
      rw [← List.pairwise_map (f := OrderLine.lineId) (R := (· ≤ ·)),
        map_lineId_of_toLine hread, List.pairwise_map]
      exact List.pairwise_insertionSort _ _
    rw [(hsorted.mp hlines).insertionSort_eq] at hread
    exact ⟨hlines, hread⟩
  · rintro ⟨hlines, hread⟩
    rwa [(hsorted.mp hlines).insertionSort_eq]

end OrderLineRow

/-- The columns hold all lines as they are, and these come in the order of their ids. -/
structure Order.Storable (order : Order) : Prop where
  lines : ∀ line ∈ order.lines, line.Storable
  sorted : order.lines.Pairwise fun a b => a.lineId ≤ b.lineId

/-- The tables can take an order: its source action is there, its ids are not. -/
structure Order.Admitted (rows : Rows Row) (order : Order) : Prop where
  action : (rows.get (Key.commercialAction order.sourceActionId)).isSome = true
  header : rows.get (Key.orderHeader order.orderId) = none
  stored : rows.get (Key.orderLines order.orderId) = none
  lines : ∀ line ∈ order.lines, rows.get (Key.orderLine line.lineId) = none

/-- The order is added and read back as itself, so that resolved lines are compared with
the lines that were written. -/
def Order.RoundTrips {E : Type} (env : E) (rows : Rows Row) (order : Order) : Prop :=
  ∃ added, (Orders.add order).atomically env rows = .ok ((), added) ∧
    ∃ stored, (Orders.get order.orderId).atomically env added = .ok (some stored, added) ∧
      stored = order ∧ ∀ resolved : List OrderLine,
        (resolved == stored.lines) = (resolved == order.lines)

namespace Orders

variable {E : Type} {env : E} {committed own own' : Rows Row} {orderId : String}
  {line : OrderLine} {lines : List OrderLine}

theorem insertLine_eq_ok {result : Unit} :
    (insertLine orderId line).execute env committed own = .ok (result, own') ↔
      ∃ row, OrderLineRow.ofLine line = .ok row ∧
        Rows.get (own ++ committed) (Key.orderLine row.lineId) = none ∧
        own' = ⟨Key.orderLines orderId, some ((Rows.get (own ++ committed)
          (Key.orderLines orderId)).getD [] ++ [row])⟩ ::
            ⟨Key.orderLine row.lineId, some orderId⟩ :: own := by
  simp only [insertLine, execute_bind_eq_ok, execute_lift_eq_ok, execute_insert_eq_ok]
  constructor
  · rintro ⟨row, _, ⟨hrow, rfl⟩, _, between, ⟨hnew, rfl⟩, hstore⟩
    refine ⟨row, hrow, hnew, ?_⟩
    simp only [store, execute, Except.ok.injEq, Prod.mk.injEq, true_and] at hstore
    rw [← hstore, List.cons_append, Rows.get_cons_ne (by simp)]
  · rintro ⟨row, hrow, hnew, rfl⟩
    refine ⟨row, own, ⟨hrow, rfl⟩, (), _, ⟨hnew, rfl⟩, ?_⟩
    simp only [store, execute, Except.ok.injEq, Prod.mk.injEq, true_and]
    rw [List.cons_append, Rows.get_cons_ne (by simp)]

/-- Lines with new ids are inserted exactly when each of them is stored as a row. -/
theorem insertLines_eq_ok (hbuilt : ∀ line ∈ lines, line.Built)
    (hnodup : (lines.map OrderLine.lineId).Nodup)
    (hnew : ∀ line ∈ lines, Rows.get (own ++ committed) (Key.orderLine line.lineId) = none) :
    (∃ own', (insertLines orderId lines).execute env committed own = .ok ((), own')) ↔
      ∃ rows, lines.mapM OrderLineRow.ofLine = .ok rows := by
  induction lines generalizing own with
  | nil => exact iff_of_true ⟨own, rfl⟩ ⟨[], rfl⟩
  | cons line rest ih =>
      obtain ⟨hline, hrest⟩ := List.forall_mem_cons.mp hbuilt
      obtain ⟨hlineNew, hrestNew⟩ := List.forall_mem_cons.mp hnew
      rw [List.map_cons, List.nodup_cons] at hnodup
      simp only [insertLines, execute_bind_eq_ok, insertLine_eq_ok, List.mapM_cons,
        bind_eq_ok, pure_eq_ok]
      have hlater : ∀ row, OrderLineRow.ofLine line = .ok row →
          ∀ stored : List OrderLineRow, ∀ later ∈ rest,
            Rows.get (⟨Key.orderLines orderId, some stored⟩ ::
              ⟨Key.orderLine row.lineId, some orderId⟩ :: own ++ committed)
                (Key.orderLine later.lineId) = none := by
        intro row hrow stored later hmem
        have hid := OrderLineRow.lineId_of_ofLine hline hrow
        have hne : row.lineId ≠ later.lineId := by
          intro hsame
          exact hnodup.1 (List.mem_map.mpr ⟨later, hmem, by rw [← hsame, hid]⟩)
        rw [List.cons_append, List.cons_append, Rows.get_cons_ne (by simp),
          Rows.get_cons_ne (by simpa using hne)]
        exact hrestNew later hmem
      constructor
      · rintro ⟨own', _, between, ⟨row, hrow, _, rfl⟩, hexecute⟩
        obtain ⟨rows, hrows⟩ := (ih hrest hnodup.2 (hlater row hrow _)).mp ⟨own', hexecute⟩
        exact ⟨row :: rows, row, hrow, rows, hrows, rfl⟩
      · rintro ⟨_, row, hrow, rows, hrows, rfl⟩
        obtain ⟨own', hexecute⟩ :=
          (ih hrest hnodup.2 (hlater row hrow ((Rows.get (own ++ committed)
            (Key.orderLines orderId)).getD [] ++ [row]))).mpr ⟨rows, hrows⟩
        refine ⟨own', (), _, ⟨row, hrow, ?_, rfl⟩, hexecute⟩
        rw [OrderLineRow.lineId_of_ofLine hline hrow]
        exact hlineNew

/-- What inserted lines leave. -/
theorem insertLines_written {rows : List OrderLineRow}
    (hrows : lines.mapM OrderLineRow.ofLine = .ok rows)
    (hexecute : (insertLines orderId lines).execute env committed own = .ok ((), own')) :
    (Rows.get (own' ++ committed) (Key.orderLines orderId)).getD [] =
        (Rows.get (own ++ committed) (Key.orderLines orderId)).getD [] ++ rows ∧
      Rows.get (own' ++ committed) (Key.orderHeader orderId) =
        Rows.get (own ++ committed) (Key.orderHeader orderId) := by
  induction lines generalizing own rows with
  | nil =>
      obtain rfl := Except.ok.inj hrows
      obtain rfl := (Prod.mk.inj (Except.ok.inj hexecute)).2
      exact ⟨(List.append_nil _).symm, rfl⟩
  | cons line rest ih =>
      simp only [List.mapM_cons, bind_eq_ok, pure_eq_ok] at hrows
      obtain ⟨row, hrow, restRows, hrestRows, rfl⟩ := hrows
      rw [insertLines, execute_bind_eq_ok] at hexecute
      obtain ⟨_, between, hinsert, hrest⟩ := hexecute
      obtain ⟨inserted, hinserted, _, rfl⟩ := insertLine_eq_ok.mp hinsert
      obtain rfl := Except.ok.inj (hrow.symm.trans hinserted)
      obtain ⟨hlines, hheader⟩ := ih hrestRows hrest
      rw [List.cons_append, List.cons_append, Rows.get_cons_self] at hlines
      rw [List.cons_append, List.cons_append, Rows.get_cons_ne (by simp),
        Rows.get_cons_ne (by simp)] at hheader
      rw [hlines, hheader, Option.getD_some, List.append_assoc, List.singleton_append]
      exact ⟨rfl, rfl⟩

/-- Where there is room, an order is added as its lines are. -/
theorem add_admitted_eq_ok {order : Order} (hroom : order.Admitted committed) :
    (add order).execute env committed [] = .ok ((), own) ↔
      (insertLines order.orderId order.lines).execute env committed
        [⟨Key.orderHeader order.orderId, some (OrderHeader.ofOrder order)⟩] = .ok ((), own) := by
  simp only [add, references, execute_bind_eq_ok, execute_select_eq_ok, execute_lift_eq_ok,
    require_eq_ok, execute_insert_eq_ok, List.nil_append]
  constructor
  · rintro ⟨_, _, ⟨_, _, ⟨rfl, rfl⟩, _, rfl⟩, _, _, ⟨_, rfl⟩, hlines⟩
    exact hlines
  · intro hlines
    exact ⟨(), [], ⟨_, [], ⟨rfl, rfl⟩, hroom.action, rfl⟩, (), _, ⟨hroom.header, rfl⟩, hlines⟩

/-- What is read of an order whose header was added. -/
theorem get_eq_ok {order stored : Order} (haccepted : order.new = .ok order)
    {rows : Rows Row} {lines : List OrderLineRow}
    (hheader : rows.get (Key.orderHeader order.orderId) = some (OrderHeader.ofOrder order))
    (hlines : (rows.get (Key.orderLines order.orderId)).getD [] = lines) :
    ((Orders.get order.orderId).atomically env rows = .ok (some stored, rows) ∧
        stored = order) ↔
      OrderLineRow.readLines (some lines) = .ok order.lines ∧ stored = order := by
  have hread : OrderLineRow.readLines (rows.get (Key.orderLines order.orderId)) =
      OrderLineRow.readLines (some lines) := by
    rw [OrderLineRow.readLines, hlines]
    rfl
  apply and_congr_left
  rintro rfl
  simp only [atomically_eq_ok, Orders.get, execute_bind_eq_ok, execute_select_eq_ok,
    List.nil_append]
  constructor
  · rintro ⟨own, ⟨_, _, ⟨rfl, rfl⟩, hrest⟩, _⟩
    rw [hheader] at hrest
    simp only [selectLines, execute_bind_eq_ok, execute_select_eq_ok, execute_lift_eq_ok,
      execute_pure_eq_ok, List.nil_append] at hrest
    obtain ⟨found, _, ⟨_, _, ⟨rfl, rfl⟩, hfound, rfl⟩, built, _, ⟨hbuilt, rfl⟩, hsame, _⟩ := hrest
    rw [hread] at hfound
    obtain rfl := Option.some.inj hsame
    have hlist := congrArg Order.lines (Order.new_eq_ok hbuilt)
    rw [hfound, hlist]
  · intro hback
    refine ⟨[], ⟨_, [], ⟨rfl, rfl⟩, ?_⟩, rfl⟩
    rw [hheader]
    simp only [selectLines, execute_bind_eq_ok, execute_select_eq_ok, execute_lift_eq_ok,
      execute_pure_eq_ok, List.nil_append]
    exact ⟨stored.lines, [], ⟨_, [], ⟨rfl, rfl⟩, by rw [hread, hback], rfl⟩, stored, [],
      ⟨haccepted, rfl⟩, rfl, rfl⟩

end Orders

namespace Order

variable {E : Type}

section Stored

variable {env : E} {rows : Rows Row} {order : Order}

/-- What the tables hold of an order that was added is read back exactly when its rows
are. -/
theorem get_added_iff (h : order.Built) (hroom : order.Admitted rows) {own : Rows Row}
    {written : List OrderLineRow}
    (hadd : (Orders.add order).execute env rows [] = .ok ((), own))
    (hrows : order.lines.mapM OrderLineRow.ofLine = .ok written) :
    (Orders.get order.orderId).atomically env (own ++ rows) = .ok (some order, own ++ rows) ↔
      OrderLineRow.readLines (some written) = .ok order.lines := by
  obtain ⟨hlines, hheader⟩ :=
    Orders.insertLines_written hrows ((Orders.add_admitted_eq_ok hroom).mp hadd)
  rw [List.singleton_append, Rows.get_cons_self] at hheader
  rw [List.singleton_append, Rows.get_cons_ne (by simp), hroom.stored, Option.getD_none,
    List.nil_append] at hlines
  have hget := @Orders.get_eq_ok E env order order h.accepted _ _ hheader hlines
  simpa using hget

theorem add_executes_iff (h : order.Built)
    (hnodup : (order.lines.map OrderLine.lineId).Nodup) (hroom : order.Admitted rows) :
    (∃ own, (Orders.add order).execute env rows [] = .ok ((), own)) ↔
      ∃ written, order.lines.mapM OrderLineRow.ofLine = .ok written := by
  simp only [Orders.add_admitted_eq_ok hroom]
  apply Orders.insertLines_eq_ok h.lines hnodup
  intro line hmem
  rw [List.singleton_append, Rows.get_cons_ne (by simp)]
  exact hroom.lines line hmem

theorem RoundTrips.storable (hback : order.RoundTrips env rows) (h : order.Built)
    (hnodup : (order.lines.map OrderLine.lineId).Nodup) (hroom : order.Admitted rows) :
    order.Storable := by
  obtain ⟨_, hadd, stored, hget, rfl, _⟩ := hback
  obtain ⟨own, hexecute, rfl⟩ := atomically_eq_ok.mp hadd
  obtain ⟨written, hrows⟩ := (add_executes_iff h hnodup hroom).mp ⟨own, hexecute⟩
  have hread := (get_added_iff h hroom hexecute hrows).mp hget
  obtain ⟨hsorted, hlines⟩ := (OrderLineRow.readLines_eq_ok h.lines hrows).mp hread
  exact ⟨(OrderLineRow.mapM_storable_iff h.lines).mp ⟨written, hrows, hlines⟩, hsorted⟩

theorem Storable.roundTrips (hstorable : order.Storable) (h : order.Built)
    (hnodup : (order.lines.map OrderLine.lineId).Nodup) (hroom : order.Admitted rows) :
    order.RoundTrips env rows := by
  obtain ⟨written, hrows, hlines⟩ :=
    (OrderLineRow.mapM_storable_iff h.lines).mpr hstorable.lines
  obtain ⟨own, hexecute⟩ := (add_executes_iff h hnodup hroom).mpr ⟨written, hrows⟩
  have hread := (OrderLineRow.readLines_eq_ok h.lines hrows).mpr ⟨hstorable.sorted, hlines⟩
  refine ⟨own ++ rows, atomically_eq_ok.mpr ⟨own, hexecute, rfl⟩, order, ?_, rfl,
    fun _ => rfl⟩
  exact (get_added_iff h hroom hexecute hrows).mpr hread

end Stored

/-- The action that the orders here come from. -/
def actionRows : Rows Row :=
  [⟨Key.commercialAction "action-1", some ⟨"action-1", "identity-1", "contact", "max", [],
    none, .sent, 1, none, none⟩⟩]

end Order

end ShemaPlatform
