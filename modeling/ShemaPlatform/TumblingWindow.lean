/-
A counter over windows that begin with the first admission after the one before
has run out, and that trips for a whole window when it reaches its limit: how
many admissions it lets through, between two begins and in any interval.
-/
import Mathlib.Algebra.Order.Group.Defs
import Mathlib.Data.List.Basic

namespace TumblingWindow

universe u

variable {T : Type u}

/-- When the window began, how many it has let through, and until when it is
closed. -/
structure Counter (T : Type u) where
  started : T
  used : ℕ
  closedUntil : Option T

/-- An admission, with the begin of its window. -/
structure Admission (T : Type u) where
  time : T
  started : T
deriving DecidableEq

section Admit

variable [AddCommGroup T] [LinearOrder T] (limit : ℕ) (window now : T)

/-- A counter that is open lets one more through, in a new window if the old one
has run out. -/
def Counter.next (counter : Counter T) : Counter T :=
  let fresh := counter.started + window ≤ now
  let used := (if fresh then 0 else counter.used) + 1
  ⟨if fresh then now else counter.started, used,
    if limit ≤ used then some (now + window) else none⟩

/-- The first admission begins the first window. -/
def Counter.first : Counter T :=
  ⟨now, 1, if limit = 1 then some (now + window) else none⟩

/-- What was admitted, oldest first, and the counter it leads to. -/
inductive History : List (Admission T) → Counter T → Prop where
  | first (now : T) : History [⟨now, now⟩] (Counter.first limit window now)
  | accept {log : List (Admission T)} {counter : Counter T} {now : T}
      (hlog : History log counter) (hlater : ∀ admission ∈ log, admission.time ≤ now)
      (hopen : ∀ closed ∈ counter.closedUntil, closed ≤ now) :
      History (log ++ [⟨now, (counter.next limit window now).started⟩])
        (counter.next limit window now)

end Admit

variable [AddCommGroup T] [LinearOrder T] [IsOrderedAddMonoid T] {limit : ℕ} {window : T}
  {log rest previous current : List (Admission T)} {counter : Counter T}

/-- The log split into the window that is running, the one before if it was not
filled, and the rest, which is over for at least a window. -/
structure Split (limit : ℕ) (window : T) (rest previous current : List (Admission T))
    (counter : Counter T) : Prop where
  running : ∀ admission ∈ current, admission.started = counter.started ∧
    counter.started ≤ admission.time ∧ admission.time < counter.started + window
  used : current.length = counter.used
  filled : counter.used ≤ limit
  nonempty : current ≠ []
  closed : counter.used = limit → ∃ closed, counter.closedUntil = some closed ∧
    ∀ admission ∈ current, admission.time + window ≤ closed
  unfilled : previous.length < limit
  before : ∀ admission ∈ previous, admission.started < counter.started ∧
    admission.time ≤ counter.started
  past : ∀ admission ∈ rest, admission.started < counter.started ∧
    admission.time + window ≤ counter.started

namespace Split

variable {now : T}

theorem first (hlimit : 0 < limit) (hwindow : 0 < window) :
    Split limit window [] [] [⟨now, now⟩] (Counter.first limit window now) := by
  constructor
  · intro admission hmem
    obtain rfl := List.mem_singleton.mp hmem
    exact ⟨rfl, le_rfl, lt_add_of_pos_right now hwindow⟩
  · rfl
  · exact hlimit
  · simp
  · intro hfull
    refine ⟨now + window, if_pos hfull.symm, ?_⟩
    intro admission hmem
    obtain rfl := List.mem_singleton.mp hmem
    exact le_rfl
  · exact hlimit
  · simp
  · simp

/-- A window that has run out becomes the one before, or joins the rest if it was
filled. -/
theorem reset (hlimit : 0 < limit) (hwindow : 0 < window)
    (h : Split limit window rest previous current counter)
    (hlater : ∀ admission ∈ current, admission.time ≤ now)
    (hopen : ∀ closed ∈ counter.closedUntil, closed ≤ now)
    (hfresh : counter.started + window ≤ now) :
    ∃ rest' previous', rest' ++ previous' = rest ++ previous ++ current ∧
      Split limit window rest' previous' [⟨now, now⟩] (counter.next limit window now) := by
  have hbegin : counter.started < now := lt_of_lt_of_le (lt_add_of_pos_right _ hwindow) hfresh
  have hnext : counter.next limit window now =
      ⟨now, 1, if limit ≤ 1 then some (now + window) else none⟩ := by
    simp [Counter.next, hfresh]
  have hover : ∀ admission ∈ rest ++ previous, admission.started < now ∧
      admission.time + window ≤ now := by
    intro admission hmem
    rcases List.mem_append.mp hmem with hrest | hprevious
    · obtain ⟨hstarted, htime⟩ := h.past admission hrest
      exact ⟨hstarted.trans hbegin, htime.trans hbegin.le⟩
    · obtain ⟨hstarted, htime⟩ := h.before admission hprevious
      have hshift : admission.time + window ≤ counter.started + window :=
        add_le_add_left htime window
      exact ⟨hstarted.trans hbegin, hshift.trans hfresh⟩
  have hnew : ∀ rest' previous', previous'.length < limit →
      (∀ admission ∈ previous', admission.started < now ∧ admission.time ≤ now) →
      (∀ admission ∈ rest', admission.started < now ∧ admission.time + window ≤ now) →
      Split limit window rest' previous' [⟨now, now⟩] (counter.next limit window now) := by
    intro rest' previous' hlength hbefore hpast
    rw [hnext]
    constructor
    · intro admission hmem
      obtain rfl := List.mem_singleton.mp hmem
      exact ⟨rfl, le_rfl, lt_add_of_pos_right now hwindow⟩
    · rfl
    · exact hlimit
    · simp
    · intro hfull
      refine ⟨now + window, if_pos hfull.symm.le, ?_⟩
      intro admission hmem
      obtain rfl := List.mem_singleton.mp hmem
      exact le_rfl
    · exact hlength
    · exact hbefore
    · exact hpast
  by_cases hfull : counter.used = limit
  · obtain ⟨closed, hclosed, htimes⟩ := h.closed hfull
    refine ⟨rest ++ previous ++ current, [], by simp, hnew _ _ hlimit (by simp) ?_⟩
    intro admission hmem
    rcases List.mem_append.mp hmem with hold | hcurrent
    · exact hover admission hold
    · refine ⟨?_, (htimes admission hcurrent).trans (hopen closed hclosed)⟩
      rw [(h.running admission hcurrent).1]
      exact hbegin
  · refine ⟨rest ++ previous, current, rfl, hnew _ _ ?_ ?_ hover⟩
    · have hfilled := h.filled
      have hused := h.used
      omega
    · intro admission hmem
      refine ⟨?_, hlater admission hmem⟩
      rw [(h.running admission hmem).1]
      exact hbegin

/-- A window that is still running was not filled. -/
theorem used_lt (h : Split limit window rest previous current counter)
    (hopen : ∀ closed ∈ counter.closedUntil, closed ≤ now)
    (hrunning : now < counter.started + window) : counter.used < limit := by
  by_contra hnot
  have hfull : counter.used = limit := le_antisymm h.filled (not_lt.mp hnot)
  obtain ⟨closed, hclosed, htimes⟩ := h.closed hfull
  obtain ⟨admission, hmem⟩ := List.exists_mem_of_ne_nil current h.nonempty
  have hbegun : counter.started + window ≤ admission.time + window :=
    add_le_add_left (h.running admission hmem).2.1 window
  have hover : counter.started + window ≤ now :=
    (hbegun.trans (htimes admission hmem)).trans (hopen closed hclosed)
  exact absurd hrunning (not_lt.mpr hover)

theorem stay (h : Split limit window rest previous current counter)
    (hlater : ∀ admission ∈ current, admission.time ≤ now)
    (hopen : ∀ closed ∈ counter.closedUntil, closed ≤ now)
    (hrunning : now < counter.started + window) :
    Split limit window rest previous (current ++ [⟨now, counter.started⟩])
      (counter.next limit window now) := by
  have hroom := h.used_lt hopen hrunning
  have hnext : counter.next limit window now = ⟨counter.started, counter.used + 1,
      if limit ≤ counter.used + 1 then some (now + window) else none⟩ := by
    simp [Counter.next, not_le.mpr hrunning]
  obtain ⟨first, hfirst⟩ := List.exists_mem_of_ne_nil current h.nonempty
  have hbegun : counter.started ≤ now :=
    (h.running first hfirst).2.1.trans (hlater first hfirst)
  rw [hnext]
  constructor
  · intro admission hmem
    rcases List.mem_append.mp hmem with hold | hnew
    · exact h.running admission hold
    · obtain rfl := List.mem_singleton.mp hnew
      exact ⟨rfl, hbegun, hrunning⟩
  · simp [h.used]
  · exact hroom
  · simp
  · intro hfull
    refine ⟨now + window, if_pos hfull.symm.le, ?_⟩
    intro admission hmem
    rcases List.mem_append.mp hmem with hold | hnew
    · exact add_le_add_left (hlater admission hold) window
    · obtain rfl := List.mem_singleton.mp hnew
      exact le_rfl
  · exact h.unfilled
  · exact h.before
  · exact h.past

omit [IsOrderedAddMonoid T] in
/-- The newest admission belongs to the window that is running. -/
theorem newest_mem (h : Split limit window rest previous current counter)
    {newest : Admission T} (hparts : log ++ [newest] = rest ++ previous ++ current) :
    newest ∈ current := by
  rcases List.eq_nil_or_concat current with rfl | ⟨initial, last, rfl⟩
  · exact absurd rfl h.nonempty
  · rw [List.concat_eq_append, ← List.append_assoc] at hparts
    obtain ⟨_, hlast⟩ := List.append_inj' hparts rfl
    simp [(List.cons.inj hlast).1]

end Split

namespace History

theorem split (hlimit : 0 < limit) (hwindow : 0 < window)
    (h : History limit window log counter) :
    ∃ rest previous current, log = rest ++ previous ++ current ∧
      Split limit window rest previous current counter := by
  induction h with
  | first now => exact ⟨[], [], [⟨now, now⟩], rfl, Split.first hlimit hwindow⟩
  | @accept log counter now hlog hlater hopen ih =>
      obtain ⟨rest, previous, current, rfl, hsplit⟩ := ih
      have hcurrent : ∀ admission ∈ current, admission.time ≤ now :=
        fun admission hmem => hlater admission (List.mem_append_right _ hmem)
      by_cases hfresh : counter.started + window ≤ now
      · obtain ⟨rest', previous', hsame, hnew⟩ :=
          hsplit.reset hlimit hwindow hcurrent hopen hfresh
        refine ⟨rest', previous', _, ?_, hnew⟩
        rw [hsame]
        simp [Counter.next, hfresh]
      · have hrunning := not_le.mp hfresh
        refine ⟨rest, previous, _, ?_, hsplit.stay hcurrent hopen hrunning⟩
        simp [Counter.next, hfresh]

omit [IsOrderedAddMonoid T] in
/-- So many admissions belong to the window that is running. -/
theorem count_running (hsplit : Split limit window rest previous current counter) :
    ((rest ++ previous ++ current).filter fun admission =>
      admission.started = counter.started).length = counter.used := by
  have hold : (rest ++ previous).filter (fun admission =>
      decide (admission.started = counter.started)) = [] := by
    rw [List.filter_eq_nil_iff]
    intro admission hmem
    rw [decide_eq_true_eq]
    rcases List.mem_append.mp hmem with hrest | hprevious
    · exact (hsplit.past admission hrest).1.ne
    · exact (hsplit.before admission hprevious).1.ne
  have hnew : current.filter (fun admission =>
      decide (admission.started = counter.started)) = current := by
    rw [List.filter_eq_self]
    intro admission hmem
    rw [decide_eq_true_eq]
    exact (hsplit.running admission hmem).1
  rw [List.filter_append, hold, hnew, List.nil_append, hsplit.used]

/-- No window lets more through than the limit. -/
theorem count_window_le (hlimit : 0 < limit) (hwindow : 0 < window)
    (h : History limit window log counter) (started : T) :
    (log.filter fun admission => admission.started = started).length ≤ limit := by
  have hrunning : ∀ {log : List (Admission T)} {counter : Counter T},
      History limit window log counter →
        (log.filter fun admission => admission.started = counter.started).length ≤ limit := by
    intro log counter h
    obtain ⟨rest, previous, current, rfl, hsplit⟩ := h.split hlimit hwindow
    rw [count_running hsplit]
    exact hsplit.filled
  induction h with
  | first now =>
      by_cases hsame : started = now
      · subst hsame
        exact hrunning (.first started)
      · simp [Ne.symm hsame]
  | @accept log counter now hlog hlater hopen ih =>
      by_cases hsame : started = (counter.next limit window now).started
      · subst hsame
        exact hrunning (hlog.accept hlater hopen)
      · rw [List.filter_append, List.filter_cons_of_neg (by simpa using Ne.symm hsame)]
        simpa using ih

/-- After the admission that fills a window there is none for a whole window. -/
theorem closed_after (hlimit : 0 < limit) (hwindow : 0 < window)
    (h : History limit window log counter) :
    ∀ before filling after, log = before ++ filling :: after →
      ((before ++ [filling]).filter fun admission =>
        admission.started = filling.started).length = limit →
      ∀ later ∈ after, filling.time + window ≤ later.time := by
  induction h with
  | first now =>
      intro before filling after hlog _ later hmem
      have hlength := congrArg List.length hlog
      have hpos := List.length_pos_of_mem hmem
      simp at hlength
      omega
  | @accept log counter now hlog hlater hopen ih =>
      intro before filling after hsplit hfull later hmem
      rcases List.eq_nil_or_concat after with rfl | ⟨between, newest, rfl⟩
      · cases hmem
      · rw [List.concat_eq_append, ← List.cons_append, ← List.append_assoc] at hsplit
        obtain ⟨rfl, hnewest⟩ := List.append_inj' hsplit rfl
        obtain rfl := List.cons.inj hnewest |>.1
        rw [List.concat_eq_append, List.mem_append, List.mem_singleton] at hmem
        have hnew : filling.time + window ≤ now := by
          cases between with
          | nil =>
              obtain ⟨rest, previous, current, hparts, hwhole⟩ := hlog.split hlimit hwindow
              have hmine := hwhole.newest_mem hparts
              rw [(hwhole.running filling hmine).1, hparts, count_running hwhole] at hfull
              obtain ⟨closed, hclosed, htimes⟩ := hwhole.closed hfull
              exact (htimes filling hmine).trans (hopen closed hclosed)
          | cons next others =>
              have hnext := ih before filling (next :: others) rfl hfull next
                List.mem_cons_self
              exact hnext.trans (hlater next (by simp))
        rcases hmem with hold | rfl
        · exact ih before filling between rfl hfull later hold
        · exact hnew

omit [IsOrderedAddMonoid T] in
/-- The next admission is in the same window, or begins one when that has run out. -/
theorem begins (h : History limit window log counter) :
    ∀ before admission next after, log = before ++ admission :: next :: after →
      next.started = admission.started ∨
        next.started = next.time ∧ admission.started + window ≤ next.time := by
  have hlast : ∀ {log : List (Admission T)} {counter : Counter T} {before admission},
      History limit window log counter → log = before ++ [admission] →
        admission.started = counter.started := by
    intro log counter before admission h hlog
    cases h with
    | first now =>
        rw [← List.nil_append [_]] at hlog
        obtain ⟨_, hsame⟩ := List.append_inj' hlog rfl
        rw [← (List.cons.inj hsame).1]
        rfl
    | accept _ _ _ =>
        obtain ⟨_, hsame⟩ := List.append_inj' hlog rfl
        rw [← (List.cons.inj hsame).1]
  induction h with
  | first now =>
      intro before admission next after hlog
      have hlength := congrArg List.length hlog
      simp at hlength
      omega
  | @accept log counter now hlog hlater hopen ih =>
      intro before admission next after hsplit
      rcases List.eq_nil_or_concat after with rfl | ⟨between, newest, rfl⟩
      · rw [List.append_cons before] at hsplit
        obtain ⟨rfl, hnext⟩ := List.append_inj' hsplit rfl
        obtain rfl := (List.cons.inj hnext).1
        rw [hlast hlog rfl]
        by_cases hfresh : counter.started + window ≤ now
        · right
          refine ⟨?_, hfresh⟩
          simp [Counter.next, hfresh]
        · left
          simp [Counter.next, hfresh]
      · rw [List.concat_eq_append, ← List.cons_append, ← List.cons_append,
          ← List.append_assoc] at hsplit
        obtain ⟨rfl, _⟩ := List.append_inj' hsplit rfl
        exact ih before admission next between rfl

/-- An interval as long as a window sees fewer than twice the limit. -/
theorem count_interval_lt (hlimit : 0 < limit) (hwindow : 0 < window)
    (h : History limit window log counter) (start : T) :
    (log.filter fun admission => start ≤ admission.time ∧
      admission.time < start + window).length < 2 * limit := by
  induction h with
  | first now =>
      have hone := List.length_filter_le (fun admission : Admission T =>
        decide (start ≤ admission.time ∧ admission.time < start + window)) [⟨now, now⟩]
      rw [List.length_singleton] at hone
      omega
  | @accept log counter now hlog hlater hopen ih =>
      by_cases hinside : start ≤ now ∧ now < start + window
      · -- what lies in the interval is less than a window older than the newest
        obtain ⟨rest, previous, current, hparts, hsplit⟩ :=
          (hlog.accept hlater hopen).split hlimit hwindow
        have hnewest : (counter.next limit window now).started ≤ now :=
          (hsplit.running _ (hsplit.newest_mem hparts)).2.1
        rw [hparts, List.filter_append, List.filter_append]
        have hrest : rest.filter (fun admission => decide (start ≤ admission.time ∧
            admission.time < start + window)) = [] := by
          rw [List.filter_eq_nil_iff]
          intro admission hmem
          rw [decide_eq_true_eq]
          rintro ⟨hafter, _⟩
          have hpast := (hsplit.past admission hmem).2
          have hshift : start + window ≤ admission.time + window :=
            add_le_add_left hafter window
          exact absurd hinside.2 (not_lt.mpr ((hshift.trans hpast).trans hnewest))
        have hprevious := List.length_filter_le (fun admission : Admission T =>
          decide (start ≤ admission.time ∧ admission.time < start + window)) previous
        have hcurrent := List.length_filter_le (fun admission : Admission T =>
          decide (start ≤ admission.time ∧ admission.time < start + window)) current
        rw [hrest, List.nil_append, List.length_append]
        have hunfilled := hsplit.unfilled
        have hfilled := hsplit.filled
        have hused := hsplit.used
        omega
      · rw [List.filter_append, List.filter_cons_of_neg (by simpa using hinside)]
        simpa using ih

end History

end TumblingWindow
