/-
The collection of a batch over any sequence of `materialize_due_items` calls, while
other transactions change the monitors and work on the items.
-/
import Mathlib.Data.String.Basic
import ShemaPlatform.BatchRules
import ShemaPlatform.KeysetPage

namespace ShemaPlatform

open Calendar ReadCommitted ReadCommitted.Prog MonitoringBatchRepository KeysetPage

namespace Materialization

/-- A call on rows at a moment, and the batch that it returned. -/
structure Call where
  rows : MonitoringRows
  scheduledAt : Instant
  limit : ℕ
  updated : CounterpartyMonitoringBatch

/-- The call finds the monitor active and due. -/
def Call.Finds (call : Call) (monitorId : String) : Prop :=
  ∃ monitor, monitorAt call.rows monitorId = some monitor ∧ monitor.status = .active ∧
    monitor.nextCheckAt ≤ call.scheduledAt

/-- The monitors that are active and due. -/
def Call.query (call : Call) : Query String where
  found := ((monitors call.rows).filter fun entry =>
    due call.scheduledAt none entry.1 entry.2).map Prod.fst
  limit := call.limit

section Batch

variable (batchId : String)

/-- The cursor that the call reads. -/
def Call.cursor (call : Call) : Option String :=
  (batchAt call.rows batchId).bind (·.nextCursor)

/-- The monitors of the page that the call returns. -/
def Call.page (call : Call) : List String :=
  match batchAt call.rows batchId with
  | some batch =>
      if batch.collectionComplete then []
      else dueMonitors call.scheduledAt (batch.nextCursor.filter (· ≠ "")) call.limit call.rows
  | none => []

/-- The page is full. -/
def Call.full (call : Call) : Bool := (call.page batchId).length == call.limit

/-- Monitors are kept under their own ids. -/
def Named (rows : MonitoringRows) : Prop :=
  ∀ monitorId monitor, monitorAt rows monitorId = some monitor →
    monitor.monitorId = monitorId

/-- What other transactions leave of a batch: where its collection is, and that its items
are there. -/
structure Elsewhere (rows rows' : MonitoringRows) : Prop where
  named : Named rows → Named rows'
  batch : (batchAt rows' batchId).map (fun batch => (batch.nextCursor,
      batch.collectionComplete)) =
    (batchAt rows batchId).map fun batch => (batch.nextCursor, batch.collectionComplete)
  items : ∀ monitorId, (itemAt rows batchId monitorId).isSome = true →
    (itemAt rows' batchId monitorId).isSome = true

/-- A batch whose collection has not begun. -/
structure Opened (rows : MonitoringRows) : Prop where
  named : Named rows
  batch : ∃ batch, batchAt rows batchId = some batch ∧ batch.nextCursor = none ∧
    batch.collectionComplete = false

/-- A sequence of calls on a batch, one after the other. -/
inductive Run (first : MonitoringRows) : List Call → MonitoringRows → Prop where
  | start : Run first [] first
  | elsewhere {calls : List Call} {rows rows' : MonitoringRows} (h : Run first calls rows)
      (hother : Elsewhere batchId rows rows') : Run first calls rows'
  | call {calls : List Call} {rows rows' : MonitoringRows} (locked : LockedItems)
      (scheduledAt : Instant) (limit : ℕ) (updated : CounterpartyMonitoringBatch)
      (h : Run first calls rows) (hlimit : 1 ≤ limit)
      (hcall : (materializeDueItems batchId scheduledAt limit).atomically locked rows =
        .ok (updated, rows')) :
      Run first (calls ++ [⟨rows, scheduledAt, limit, updated⟩]) rows'

end Batch

section Pages

variable {rows : MonitoringRows} {call : Call} {batchId monitorId : String}

theorem mem_query : monitorId ∈ call.query.found ↔ call.Finds monitorId := by
  simp only [Call.query, List.mem_map, List.mem_filter, Prod.exists, exists_and_right,
    exists_eq_right, mem_monitors, due, Option.all_none, Bool.and_true, Bool.and_eq_true,
    beq_iff_eq, decide_eq_true_eq, Call.Finds]

theorem nodup_monitors (rows : MonitoringRows) : ((monitors rows).map Prod.fst).Nodup := by
  apply @Rows.Lists.nodup _ _ _ _ _ MonitoringKey.monitor (fun _ row => row) _ rows
  constructor
  · intro monitorId row
    rfl
  · rintro ⟨key, row⟩ monitorId found h
    cases key with
    | monitor other =>
        obtain ⟨rfl, _⟩ := Prod.mk.inj (Option.some.inj h)
        rfl
    | _ => simp at h

theorem nodup_itemsOf (rows : MonitoringRows) (batchId : String) :
    ((itemsOf rows batchId).map Prod.fst).Nodup := by
  apply @Rows.Lists.nodup _ _ _ _ _ (MonitoringKey.batchItem batchId) (fun _ row => row) _
    rows
  constructor
  · intro monitorId row
    exact if_pos rfl
  · rintro ⟨key, row⟩ monitorId found h
    cases key with
    | batchItem other monitor =>
        dsimp only at h
        split_ifs at h with hsame
        obtain ⟨rfl, _⟩ := Prod.mk.inj (Option.some.inj h)
        rw [hsame]
    | _ => simp at h

theorem nodup_query (call : Call) : call.query.found.Nodup :=
  (nodup_monitors call.rows).sublist (List.filter_sublist.map _)

theorem dueMonitors_eq (call : Call) (cursor : Option String) :
    dueMonitors call.scheduledAt cursor call.limit call.rows = page cursor call.query := by
  have hfilter : (((monitors call.rows).filter fun entry =>
      due call.scheduledAt none entry.1 entry.2).map Prod.fst).filter
        (fun key => cursor.all (· < key)) =
      ((monitors call.rows).filter fun entry =>
        due call.scheduledAt cursor entry.1 entry.2).map Prod.fst := by
    rw [List.filter_map, List.filter_filter]
    congr 1
    apply List.filter_congr
    intro entry _
    simp [due, Bool.and_comm]
  rw [dueMonitors, page, beyond, Call.query, hfilter]

end Pages

section Steps

variable {batchId : String} {rows rows' : MonitoringRows} {locked : LockedItems}
  {scheduledAt : Instant} {limit : ℕ} {updated : CounterpartyMonitoringBatch}
  {calls : List Call}

/-- What a call does to a batch that is still collecting. -/
structure Collected (batchId : String) (call : Call) (rows' : MonitoringRows) : Prop where
  cursor : call.updated.nextCursor = (call.page batchId).getLast?.or
    ((call.cursor batchId).filter (· ≠ ""))
  complete : call.updated.collectionComplete =
    decide ((call.page batchId).length < call.limit)
  batch : batchAt rows' batchId = some call.updated
  items : ∀ monitorId, (itemAt rows' batchId monitorId).isSome =
    ((itemAt call.rows batchId monitorId).isSome || decide (monitorId ∈ call.page batchId))

theorem monitorAt_batch (row : Option CounterpartyMonitoringBatch) (batchId monitorId : String) :
    monitorAt (⟨MonitoringKey.batch batchId, row⟩ :: rows) monitorId =
      monitorAt rows monitorId := by
  simp [monitorAt]

theorem dueMonitors_batch (row : Option CounterpartyMonitoringBatch)
    (cursor : Option String) :
    dueMonitors scheduledAt cursor limit (⟨MonitoringKey.batch batchId, row⟩ :: rows) =
      dueMonitors scheduledAt cursor limit rows := by
  have hmonitors : monitors (⟨MonitoringKey.batch batchId, row⟩ :: rows) =
      monitors rows := by
    rw [monitors, Rows.filterMap_live_cons]
    · rfl
    · exact fun _ => rfl
  rw [dueMonitors, dueMonitors, hmonitors]

theorem call_cases
    (hcall : (materializeDueItems batchId scheduledAt limit).atomically locked rows =
      .ok (updated, rows')) :
    (∀ monitorId, monitorAt rows' monitorId = monitorAt rows monitorId) ∧
    ∃ batch, batchAt rows batchId = some batch ∧
      ((batch.collectionComplete = true ∧ updated = batch ∧ batchAt rows' batchId = some batch ∧
          ∀ monitorId, itemAt rows' batchId monitorId = itemAt rows batchId monitorId) ∨
        (batch.collectionComplete = false ∧
          Collected batchId ⟨rows, scheduledAt, limit, updated⟩ rows')) := by
  obtain ⟨own, hexecute, rfl⟩ := atomically_eq_ok.mp hcall
  obtain ⟨batch, hbatch, hcases⟩ := materializeDueItems_eq_ok hexecute
  rw [List.nil_append] at hbatch
  rcases hcases with ⟨hcomplete, rfl, rfl⟩ | ⟨hopen, page, inserted, rfl, hcollects⟩
  · constructor
    · exact fun monitorId => monitorAt_batch _ _ _
    · exact ⟨updated, hbatch, Or.inl ⟨hcomplete, rfl, by simp, fun _ => by simp⟩⟩
  · have hpage : Call.page batchId ⟨rows, scheduledAt, limit, updated⟩ = page := by
      rw [hcollects.page_eq, dueMonitors_batch, Call.page, hbatch]
      simp only [hopen, Bool.false_eq_true, ↓reduceIte, List.nil_append]
    have hcursor : Call.cursor batchId ⟨rows, scheduledAt, limit, updated⟩ =
        batch.nextCursor := by
      rw [Call.cursor, hbatch]
      rfl
    constructor
    · intro monitorId
      rw [List.cons_append, List.append_assoc, monitorAt_batch]
      refine (Rows.Only.get_append hcollects.inserts.items ?_ _).trans (monitorAt_batch _ _ _)
      rintro ⟨_, hkey⟩
      cases hkey
    · refine ⟨batch, hbatch, Or.inr ⟨hopen, ?_⟩⟩
      constructor
      · rw [hpage, hcursor]
        exact hcollects.cursor
      · rw [hpage]
        exact hcollects.complete
      · simp
      · intro monitorId
        rw [hpage, List.cons_append, List.append_assoc, itemAt_batch, List.cons_append,
          List.nil_append]
        refine (congrArg Option.isSome (hcollects.inserts.itemAt_eq monitorId)).trans ?_
        rw [List.nil_append, itemAt_batch, Option.isSome_or]
        congr 1
        by_cases hmem : monitorId ∈ page <;> simp [hmem]

/-- The pages of the calls, as a scan of the monitors. -/
def scan (calls : List Call) : Scan String := Scan.run (calls.map Call.query)

/-- The batch is where the scan is, and its items are there. -/
structure Collecting (batchId : String) (calls : List Call) (rows : MonitoringRows) :
    Prop where
  named : Named rows
  named_calls : ∀ call ∈ calls, Named call.rows
  limits : ∀ call ∈ calls, 1 ≤ call.limit
  mirrors : ∃ batch, batchAt rows batchId = some batch ∧
    batch.nextCursor = (scan calls).seen.getLast? ∧
    batch.collectionComplete = (scan calls).complete
  pages : (scan calls).seen = calls.flatMap (·.page batchId)
  inserted : ∀ monitorId ∈ (scan calls).seen, (itemAt rows batchId monitorId).isSome = true
  below : ∀ call ∈ calls, ∀ key ∈ call.updated.nextCursor,
    ∃ last ∈ (scan calls).seen.getLast?, key ≤ last
  own : ∀ call ∈ calls, call.full batchId = true →
    ∃ key ∈ call.updated.nextCursor, ∀ before ∈ call.cursor batchId, before < key
  ascending : (calls.filter (·.full batchId)).Pairwise fun earlier later =>
    ∀ key ∈ earlier.updated.nextCursor, ∀ later' ∈ later.updated.nextCursor, key < later'

theorem scan_append (calls : List Call) (call : Call) :
    scan (calls ++ [call]) = (scan calls).next call.query := by
  rw [scan, List.map_append, List.map_cons, List.map_nil, run_append]
  rfl

theorem ne_empty_of_finds {call : Call} {monitorId : String} (hnamed : Named call.rows)
    (h : call.Finds monitorId) : monitorId ≠ "" := by
  rintro rfl
  obtain ⟨monitor, hmonitor, _⟩ := h
  have hblank := monitor.valid.1
  rw [hnamed "" monitor hmonitor] at hblank
  cases hblank

theorem Collecting.ne_empty (h : Collecting batchId calls rows) {monitorId : String}
    (hseen : monitorId ∈ (scan calls).seen) : monitorId ≠ "" := by
  obtain ⟨query, hmem, hfound⟩ := found_of_seen hseen
  obtain ⟨call, hcall, rfl⟩ := List.mem_map.mp hmem
  exact ne_empty_of_finds (h.named_calls call hcall) (mem_query.mp hfound)

theorem Collecting.start (h : Opened batchId rows) : Collecting batchId [] rows := by
  obtain ⟨batch, hbatch, hcursor, hopen⟩ := h.batch
  constructor
  · exact h.named
  · simp
  · simp
  · exact ⟨batch, hbatch, hcursor, hopen⟩
  · rfl
  · simp [scan]
  · simp
  · simp
  · exact List.Pairwise.nil

theorem Collecting.elsewhere (h : Collecting batchId calls rows)
    (hother : Elsewhere batchId rows rows') : Collecting batchId calls rows' := by
  constructor
  · exact hother.named h.named
  · exact h.named_calls
  · exact h.limits
  · obtain ⟨batch, hbatch, hcursor, hcomplete⟩ := h.mirrors
    have hsame := hother.batch
    rw [hbatch, Option.map_some, Option.map_eq_some_iff] at hsame
    obtain ⟨batch', hbatch', hpair⟩ := hsame
    obtain ⟨hcursor', hcomplete'⟩ := Prod.mk.inj hpair
    exact ⟨batch', hbatch', hcursor'.trans hcursor, hcomplete'.trans hcomplete⟩
  · exact h.pages
  · exact fun monitorId hseen => hother.items monitorId (h.inserted monitorId hseen)
  · exact h.below
  · exact h.own
  · exact h.ascending

/-- A call that finds the collection complete. -/
theorem Collecting.resumed (h : Collecting batchId calls rows)
    {batch : CounterpartyMonitoringBatch} (hlimit : 1 ≤ limit)
    (hmonitors : ∀ monitorId, monitorAt rows' monitorId = monitorAt rows monitorId)
    (hbatch : batchAt rows batchId = some batch) (hcomplete : batch.collectionComplete = true)
    (hafter : batchAt rows' batchId = some batch)
    (hitems : ∀ monitorId, itemAt rows' batchId monitorId = itemAt rows batchId monitorId) :
    Collecting batchId (calls ++ [⟨rows, scheduledAt, limit, batch⟩]) rows' := by
  obtain ⟨found, hfound, hcursor, hscan⟩ := h.mirrors
  obtain rfl := Option.some.inj (hbatch.symm.trans hfound)
  have hsame : scan (calls ++ [⟨rows, scheduledAt, limit, batch⟩]) = scan calls := by
    rw [scan_append, next_complete (hscan.symm.trans hcomplete)]
  have hpage : Call.page batchId ⟨rows, scheduledAt, limit, batch⟩ = [] := by
    simp only [Call.page, hbatch, hcomplete, ↓reduceIte]
  have hfull : Call.full batchId ⟨rows, scheduledAt, limit, batch⟩ = false := by
    rw [Call.full, hpage]
    exact beq_eq_false_iff_ne.mpr (by simp only [List.length_nil]; omega)
  constructor
  · intro monitorId monitor hmonitor
    exact h.named monitorId monitor ((hmonitors _).symm.trans hmonitor)
  · intro call hcall
    rcases List.mem_append.mp hcall with hold | hnew
    · exact h.named_calls call hold
    · obtain rfl := List.mem_singleton.mp hnew
      exact h.named
  · intro call hcall
    rcases List.mem_append.mp hcall with hold | hnew
    · exact h.limits call hold
    · obtain rfl := List.mem_singleton.mp hnew
      exact hlimit
  · rw [hsame]
    exact ⟨batch, hafter, hcursor, hscan⟩
  · rw [hsame, List.flatMap_append, List.flatMap_singleton, hpage, List.append_nil]
    exact h.pages
  · rw [hsame]
    exact fun monitorId hseen => (hitems monitorId).symm ▸ h.inserted monitorId hseen
  · rw [hsame]
    intro call hcall
    rcases List.mem_append.mp hcall with hold | hnew
    · exact h.below call hold
    · obtain rfl := List.mem_singleton.mp hnew
      exact fun key hkey => ⟨key, hcursor ▸ hkey, le_refl key⟩
  · intro call hcall hpage
    rcases List.mem_append.mp hcall with hold | hnew
    · exact h.own call hold hpage
    · obtain rfl := List.mem_singleton.mp hnew
      rw [hfull] at hpage
      cases hpage
  · rw [List.filter_append, List.filter_cons_of_neg (by simp [hfull]), List.filter_nil,
      List.append_nil]
    exact h.ascending

/-- The cursor of the batch is the last monitor that the scan has seen. -/
theorem Collecting.cursor_eq (h : Collecting batchId calls rows)
    {batch : CounterpartyMonitoringBatch} (hbatch : batchAt rows batchId = some batch) :
    batch.nextCursor.filter (· ≠ "") = (scan calls).seen.getLast? := by
  obtain ⟨found, hfound, hcursor, _⟩ := h.mirrors
  obtain rfl := Option.some.inj (hbatch.symm.trans hfound)
  rw [hcursor]
  cases hlast : (scan calls).seen.getLast? with
  | none => rfl
  | some last =>
      have hne := h.ne_empty (List.mem_of_getLast? hlast)
      exact Option.filter_some_pos (by simpa using hne)

theorem Collecting.page_eq (h : Collecting batchId calls rows)
    {batch : CounterpartyMonitoringBatch} (hbatch : batchAt rows batchId = some batch)
    (hopen : batch.collectionComplete = false) {call : Call} (hrows : call.rows = rows) :
    call.page batchId = page (scan calls).seen.getLast? call.query := by
  subst hrows
  rw [Call.page, hbatch]
  simp only [hopen, Bool.false_eq_true, ↓reduceIte]
  rw [h.cursor_eq hbatch, dueMonitors_eq]

theorem nodup_queries (calls : List Call) :
    ∀ query ∈ calls.map Call.query, query.found.Nodup := by
  intro query hquery
  obtain ⟨call, _, rfl⟩ := List.mem_map.mp hquery
  exact nodup_query call

theorem sorted_scan (calls : List Call) : (scan calls).seen.Pairwise (· < ·) :=
  sorted_run (nodup_queries calls)

/-- A call that adds a page. -/
theorem Collecting.paged (h : Collecting batchId calls rows)
    {batch : CounterpartyMonitoringBatch} (hlimit : 1 ≤ limit)
    (hmonitors : ∀ monitorId, monitorAt rows' monitorId = monitorAt rows monitorId)
    (hbatch : batchAt rows batchId = some batch) (hopen : batch.collectionComplete = false)
    (hcollected : Collected batchId ⟨rows, scheduledAt, limit, updated⟩ rows') :
    Collecting batchId (calls ++ [⟨rows, scheduledAt, limit, updated⟩]) rows' := by
  let call : Call := ⟨rows, scheduledAt, limit, updated⟩
  have hscan : (scan calls).complete = false := by
    obtain ⟨found, hfound, _, hcomplete⟩ := h.mirrors
    obtain rfl := Option.some.inj (hbatch.symm.trans hfound)
    exact hcomplete.symm.trans hopen
  have hpage : call.page batchId = page (scan calls).seen.getLast? call.query :=
    h.page_eq hbatch hopen rfl
  have hseen : scan (calls ++ [call]) =
      ⟨(scan calls).seen ++ call.page batchId,
        decide ((call.page batchId).length < limit)⟩ := by
    rw [scan_append, next_open hscan, ← hpage]
    rfl
  have hcursor : (call.cursor batchId).filter (· ≠ "") = (scan calls).seen.getLast? := by
    rw [Call.cursor]
    change ((batchAt rows batchId).bind _).filter _ = _
    rw [hbatch]
    exact h.cursor_eq hbatch
  have hnext : updated.nextCursor =
      ((scan calls).seen ++ call.page batchId).getLast? := by
    rw [List.getLast?_append, ← hcursor]
    exact hcollected.cursor
  have hsorted : ((scan calls).seen ++ call.page batchId).Pairwise (· < ·) := by
    have hall := sorted_scan (calls ++ [call])
    rwa [hseen] at hall
  -- The keys of a full page lie beyond everything that was seen.
  have hbeyond : call.full batchId = true → ∃ key ∈ updated.nextCursor,
      ∀ before ∈ (scan calls).seen, before < key := by
    intro hfull
    have hlength : (call.page batchId).length = limit := by simpa [Call.full, call] using hfull
    have hne : call.page batchId ≠ [] := List.ne_nil_of_length_pos (by omega)
    obtain ⟨key, hkey⟩ : ∃ key, (call.page batchId).getLast? = some key :=
      Option.isSome_iff_exists.mp (List.getLast?_isSome.mpr hne)
    refine ⟨key, ?_, fun before hbefore => ?_⟩
    · rw [hnext, List.getLast?_append, hkey]
      rfl
    · exact (List.pairwise_append.mp hsorted).2.2 before hbefore key
        (List.mem_of_getLast? hkey)
  constructor
  · intro monitorId monitor hmonitor
    exact h.named monitorId monitor ((hmonitors _).symm.trans hmonitor)
  · intro other hother
    rcases List.mem_append.mp hother with hold | hnew
    · exact h.named_calls other hold
    · obtain rfl := List.mem_singleton.mp hnew
      exact h.named
  · intro other hother
    rcases List.mem_append.mp hother with hold | hnew
    · exact h.limits other hold
    · obtain rfl := List.mem_singleton.mp hnew
      exact hlimit
  · exact ⟨updated, hcollected.batch, hseen ▸ hnext, hseen ▸ hcollected.complete⟩
  · rw [hseen, List.flatMap_append, List.flatMap_singleton, ← h.pages]
  · rw [hseen]
    intro monitorId hmonitor
    rw [hcollected.items monitorId, Bool.or_eq_true, decide_eq_true_eq]
    rcases List.mem_append.mp hmonitor with hold | hnew
    · exact Or.inl (h.inserted monitorId hold)
    · exact Or.inr hnew
  · rw [hseen]
    intro other hother key hkey
    rcases List.mem_append.mp hother with hold | hnew
    · obtain ⟨last, hlast, hle⟩ := h.below other hold key hkey
      have hmem : last ∈ (scan calls).seen ++ call.page batchId :=
        List.mem_append_left _ (List.mem_of_getLast? hlast)
      obtain ⟨final, hfinal⟩ : ∃ final,
          ((scan calls).seen ++ call.page batchId).getLast? = some final :=
        Option.isSome_iff_exists.mp (List.getLast?_isSome.mpr (List.ne_nil_of_mem hmem))
      exact ⟨final, hfinal, hle.trans (le_getLast hsorted hmem hfinal)⟩
    · obtain rfl := List.mem_singleton.mp hnew
      exact ⟨key, hnext ▸ hkey, le_refl key⟩
  · intro other hother hfull
    rcases List.mem_append.mp hother with hold | hnew
    · exact h.own other hold hfull
    · obtain rfl := List.mem_singleton.mp hnew
      obtain ⟨key, hkey, hless⟩ := hbeyond hfull
      refine ⟨key, hkey, fun before hbefore => hless before ?_⟩
      obtain ⟨found, hfound, hstored, _⟩ := h.mirrors
      change before ∈ (batchAt rows batchId).bind _ at hbefore
      rw [hfound, Option.bind_some, hstored] at hbefore
      exact List.mem_of_getLast? hbefore
  · rw [List.filter_append, List.pairwise_append]
    refine ⟨h.ascending, (List.pairwise_singleton _ call).sublist List.filter_sublist, ?_⟩
    intro earlier hearlier later hlater key hkey key' hkey'
    obtain ⟨hmem, hfull⟩ := List.mem_filter.mp hlater
    obtain rfl := List.mem_singleton.mp hmem
    obtain ⟨last, hlast, hle⟩ := h.below earlier (List.mem_of_mem_filter hearlier) key hkey
    obtain ⟨own, hown, hless⟩ := hbeyond hfull
    obtain rfl := Option.some.inj ((Option.mem_def.mp hown).symm.trans hkey')
    exact hle.trans_lt (hless last (List.mem_of_getLast? hlast))

/-- What a batch holds after any sequence of calls on it. -/
theorem Run.collecting {first : MonitoringRows} (hopened : Opened batchId first)
    (h : Run batchId first calls rows) : Collecting batchId calls rows := by
  induction h with
  | start => exact Collecting.start hopened
  | elsewhere _ hother ih => exact ih.elsewhere hother
  | call locked scheduledAt limit updated _ hlimit hcall ih =>
      obtain ⟨hmonitors, batch, hbatch, hcases⟩ := call_cases hcall
      rcases hcases with ⟨hcomplete, rfl, hafter, hitems⟩ | ⟨hopen, hcollected⟩
      · exact ih.resumed hlimit hmonitors hbatch hcomplete hafter hitems
      · exact ih.paged hlimit hmonitors hbatch hopen hcollected

end Steps

section Total

variable (batchId : String) (rows own : MonitoringRows) (locked : LockedItems)
  (scheduledAt : Instant) {limit : ℕ}

theorem insertItems_ok (page : List String) : ∃ own',
    (insertItems batchId scheduledAt page).execute locked rows own = .ok ((), own') := by
  induction page generalizing own with
  | nil => exact ⟨own, rfl⟩
  | cons monitorId rest ih =>
      simp only [insertItems, execute_bind, execute_insertNew]
      split_ifs
      · exact ih _
      · exact ih _

omit scheduledAt in
theorem hasItems_ok (page : List String) : ∃ begun,
    (hasItems batchId page).execute locked rows own = .ok (begun, own) := by
  unfold hasItems
  split_ifs
  · exact ⟨_, rfl⟩
  · exact ⟨true, rfl⟩

variable {batchId rows locked scheduledAt}

/-- A call on a batch that is there is never refused. -/
theorem materializeDueItems_ok {batch : CounterpartyMonitoringBatch}
    (hbatch : batchAt rows batchId = some batch) : ∃ updated rows',
    (materializeDueItems batchId scheduledAt limit).atomically locked rows =
      .ok (updated, rows') := by
  have hread : (getForUpdate batchId).execute locked rows [] =
      .ok (batch, [⟨MonitoringKey.batch batchId, some batch⟩]) :=
    getForUpdate_eq_ok.mpr ⟨hbatch, rfl⟩
  simp only [atomically_eq_ok, materializeDueItems, execute_bind, hread]
  split_ifs with hcomplete
  · exact ⟨batch, _, _, rfl, rfl⟩
  · simp only [execute_bind, execute_scan]
    generalize dueMonitors scheduledAt _ limit _ = page
    obtain ⟨own', hinsert⟩ := insertItems_ok batchId rows
      [⟨MonitoringKey.batch batchId, some batch⟩] locked scheduledAt page
    obtain ⟨begun, hbegun⟩ := hasItems_ok batchId rows own' locked page
    obtain ⟨written, rfl, hwritten⟩ := insertItems_eq_ok hinsert
    have hthere : Rows.get ((written ++ [⟨MonitoringKey.batch batchId, some batch⟩]) ++ rows)
        (MonitoringKey.batch batchId) = some batch := by
      rw [List.append_assoc]
      refine (hwritten.batchAt_eq batchId).trans ?_
      simp
    simp only [hinsert, hbegun, execute_updateWhere, hthere, Option.bind_some]
    exact ⟨_, _, _, rfl, rfl⟩

end Total

section Others

variable {batchId monitorId workerId errorCode : String} {rows rows' own : MonitoringRows}
  {locked : LockedItems} {now availableAt : Instant} {leaseSeconds : ℤ} {limit : ℕ}
  {retryable : Bool}

/-- Writes to items that take none away. -/
theorem Elsewhere.of_items
    (honly : own.Only fun key => ∃ monitorId, key = .batchItem batchId monitorId)
    (hitems : ∀ monitorId, (itemAt rows batchId monitorId).isSome = true →
      (itemAt (own ++ rows) batchId monitorId).isSome = true) :
    Elsewhere batchId rows (own ++ rows) := by
  have hmonitor : ∀ monitorId, monitorAt (own ++ rows) monitorId =
      monitorAt rows monitorId := by
    intro monitorId
    apply Rows.Only.get_append honly
    rintro ⟨_, hkey⟩
    cases hkey
  have hbatch : batchAt (own ++ rows) batchId = batchAt rows batchId := by
    apply Rows.Only.get_append honly
    rintro ⟨_, hkey⟩
    cases hkey
  constructor
  · intro hnamed monitorId monitor h
    exact hnamed monitorId monitor ((hmonitor monitorId).symm.trans h)
  · rw [hbatch]
  · exact hitems

theorem elsewhere_claimItems {items : List CounterpartyMonitoringBatchItem}
    (hlease : 0 ≤ leaseSeconds)
    (h : (claimItems batchId workerId leaseSeconds now limit).atomically locked rows =
      .ok (items, rows')) : Elsewhere batchId rows rows' := by
  obtain ⟨_, hexecute, rfl⟩ := atomically_eq_ok.mp h
  obtain ⟨written, rfl, hclaims⟩ := claimItems_eq_ok hlease hexecute
  rw [List.append_nil]
  apply Elsewhere.of_items hclaims.within
  intro monitorId hthere
  rcases hclaims.itemAt_eq monitorId with hsame | ⟨_, _, _, hafter, _⟩
  · rw [List.nil_append] at hsame
    rwa [hsame]
  · rw [List.nil_append] at hafter
    rw [hafter]
    rfl

theorem elsewhere_item (result : CounterpartyMonitoringBatchItem) :
    Elsewhere batchId rows
      ([⟨MonitoringKey.batchItem batchId monitorId, some result⟩] ++ rows) := by
  apply Elsewhere.of_items
  · simp
  · intro other hthere
    rw [List.cons_append, List.nil_append, itemAt_item]
    split_ifs
    · rfl
    · exact hthere

theorem elsewhere_completeItem {result : CounterpartyMonitoringBatchItem}
    (h : (completeItem batchId monitorId workerId now).atomically locked rows =
      .ok (result, rows')) : Elsewhere batchId rows rows' := by
  obtain ⟨_, hexecute, rfl⟩ := atomically_eq_ok.mp h
  obtain ⟨_, _, _, _, rfl⟩ := completeItem_eq_ok.mp hexecute
  exact elsewhere_item result

theorem elsewhere_failItem {result : CounterpartyMonitoringBatchItem}
    (h : (failItem batchId monitorId workerId retryable errorCode availableAt now).atomically
      locked rows = .ok (result, rows')) : Elsewhere batchId rows rows' := by
  obtain ⟨_, hexecute, rfl⟩ := atomically_eq_ok.mp h
  obtain ⟨_, _, _, _, rfl⟩ := failItem_eq_ok.mp hexecute
  exact elsewhere_item result

theorem elsewhere_finalizeBatch {result : CounterpartyMonitoringBatch}
    (h : (finalizeBatch batchId now).atomically locked rows = .ok (result, rows')) :
    Elsewhere batchId rows rows' := by
  obtain ⟨_, hexecute, rfl⟩ := atomically_eq_ok.mp h
  obtain ⟨batch, hbatch, rfl, rfl⟩ := finalizeBatch_eq_ok.mp hexecute
  rw [List.nil_append] at hbatch
  constructor
  · intro hnamed monitorId monitor hmonitor
    simp only [List.cons_append, List.nil_append, monitorAt_batch] at hmonitor
    exact hnamed monitorId monitor hmonitor
  · simp [hbatch, finalized]
  · intro monitorId hthere
    simpa using hthere

end Others

section Sample

def waitingMonitor (monitorId : String) (hblank : PyText.blank monitorId = false) :
    CounterpartyMonitor where
  monitorId := monitorId
  actorId := "operator-1"
  identifierType := .inn
  identifier := "7707083893"
  status := .active
  frequencySeconds := 86400
  nextCheckAt := 0
  lastCheckedAt := none
  lastSnapshotId := none
  lastErrorCode := none
  lastErrorAt := none
  valid := ⟨hblank, by decide, by decide⟩

/-- The batch of two monitors, as a page of one after the other leaves it. -/
def pairBatch (status : BatchStatus) (nextCursor : Option String) (complete : Bool) :
    CounterpartyMonitoringBatch :=
  ⟨"batch-1", "daily", 0, status, nextCursor, complete, none⟩

def pairRows : MonitoringRows :=
  [⟨.monitor "monitor-1", some (waitingMonitor "monitor-1" (by decide))⟩,
    ⟨.monitor "monitor-2", some (waitingMonitor "monitor-2" (by decide))⟩,
    ⟨.batch "batch-1", some (pairBatch .collecting none false)⟩]

def firstPage : MonitoringRows :=
  [⟨.batch "batch-1", some (pairBatch .running (some "monitor-1") false)⟩,
    ⟨.batchItem "batch-1" "monitor-1", some (pendingItem "batch-1" "monitor-1" 10)⟩,
    ⟨.batch "batch-1", some (pairBatch .collecting none false)⟩] ++ pairRows

def secondPage : MonitoringRows :=
  [⟨.batch "batch-1", some (pairBatch .running (some "monitor-2") false)⟩,
    ⟨.batchItem "batch-1" "monitor-2", some (pendingItem "batch-1" "monitor-2" 10)⟩,
    ⟨.batch "batch-1", some (pairBatch .running (some "monitor-1") false)⟩] ++ firstPage

def lastPage : MonitoringRows :=
  [⟨.batch "batch-1", some (pairBatch .running (some "monitor-2") true)⟩,
    ⟨.batch "batch-1", some (pairBatch .running (some "monitor-2") false)⟩] ++ secondPage

def pairCalls : List Call :=
  [⟨pairRows, 10, 1, pairBatch .running (some "monitor-1") false⟩,
    ⟨firstPage, 10, 1, pairBatch .running (some "monitor-2") false⟩,
    ⟨secondPage, 10, 1, pairBatch .running (some "monitor-2") true⟩]

theorem run_pair : Run "batch-1" pairRows pairCalls lastPage := by
  have h₁ : Run "batch-1" pairRows _ firstPage :=
    .call (fun _ => false) 10 1 (pairBatch .running (some "monitor-1") false) .start
      (le_refl 1) (by with_unfolding_all rfl)
  have h₂ : Run "batch-1" pairRows _ secondPage :=
    .call (fun _ => false) 10 1 (pairBatch .running (some "monitor-2") false) h₁
      (le_refl 1) (by with_unfolding_all rfl)
  exact .call (fun _ => false) 10 1 (pairBatch .running (some "monitor-2") true) h₂
    (le_refl 1) (by with_unfolding_all rfl)

theorem opened_pair : Opened "batch-1" pairRows := by
  constructor
  · intro monitorId monitor h
    have hmem := mem_monitors.mpr h
    have hrows : monitors pairRows = [("monitor-1", waitingMonitor "monitor-1" (by decide)),
        ("monitor-2", waitingMonitor "monitor-2" (by decide))] := by
      with_unfolding_all rfl
    rw [hrows] at hmem
    simp only [List.mem_cons, Prod.mk.injEq, List.not_mem_nil, or_false] at hmem
    rcases hmem with ⟨rfl, rfl⟩ | ⟨rfl, rfl⟩
    · rfl
    · rfl
  · exact ⟨pairBatch .collecting none false, by with_unfolding_all rfl, rfl, rfl⟩

theorem found_pair : ∀ call ∈ pairCalls, ∀ monitorId, call.Finds monitorId ↔
    monitorId ∈ ({"monitor-1", "monitor-2"} : Finset String) := by
  intro call hcall monitorId
  have hquery : ∀ call ∈ pairCalls, call.query.found = ["monitor-1", "monitor-2"] := by
    decide +kernel
  rw [← mem_query, hquery call hcall]
  simp

end Sample

end Materialization

end ShemaPlatform
