/-
An abstract board of recurring plans.  Each plan is due at a moment that only
moves forward unless somebody edits it, and has at most one open order.  What
the log of such a board can contain is settled here, for any names and any
notion of time.
-/
import Mathlib.Data.List.Basic
import Mathlib.Logic.Function.Basic
import Mathlib.Order.Basic

namespace Recurrence

/-- Where an order stands; `foreign` orders are none of the board's. -/
inductive Stage where
  | opened | closed | foreign
deriving DecidableEq, Repr

@[ext] structure Board (P O T : Type) where
  due : P → Option T
  pending : P → Option O
  stage : O → Option Stage

/-- What the board logs: an order made at its plan's due moment, an order
closed with or without moving the plan on, and an edit of the due moment. -/
inductive Entry (P O T : Type) where
  | made (plan : P) (order : O) (due : T)
  | closed (plan : P) (order : O) (moved : Bool)
  | edited (plan : P)

variable {P O T : Type} [DecidableEq P] [DecidableEq O] [Preorder T]

open Function

inductive Step : Board P O T → Option (Entry P O T) → Board P O T → Prop where
  | begin {board : Board P O T} {plan : P} {due : T}
      (hnew : board.due plan = none) (hfree : board.pending plan = none) :
      Step board none { board with due := update board.due plan (some due) }
  | make {board : Board P O T} {plan : P} {order : O} {due : T}
      (hdue : board.due plan = some due) (hfree : board.pending plan = none)
      (hnew : board.stage order = none) :
      Step board (some (.made plan order due))
        { board with
          pending := update board.pending plan (some order)
          stage := update board.stage order (some .opened) }
  | close {board : Board P O T} {plan : P} {order : O} {due due' : T}
      {moved : Bool} (hdue : board.due plan = some due)
      (hpending : board.pending plan = some order)
      (hmoved : if moved then due < due' else due' = due) :
      Step board (some (.closed plan order moved))
        { due := update board.due plan (some due')
          pending := update board.pending plan none
          stage := update board.stage order (some .closed) }
  | move {board : Board P O T} {plan : P} {due due' : T}
      (hdue : board.due plan = some due) (hfree : board.pending plan = none)
      (hlater : due < due') :
      Step board none { board with due := update board.due plan (some due') }
  | edit {board : Board P O T} {plan : P} {due due' : T}
      (hdue : board.due plan = some due) (hfree : board.pending plan = none) :
      Step board (some (.edited plan))
        { board with due := update board.due plan (some due') }
  | stay {board : Board P O T} : Step board none board

/-- A run of the board with its log, oldest entry first. -/
inductive Trace (first : Board P O T) : List (Entry P O T) → Board P O T → Prop
  | start : Trace first [] first
  | step {log : List (Entry P O T)} {entry : Option (Entry P O T)}
      {board board' : Board P O T} (htrace : Trace first log board)
      (hstep : Step board entry board') :
      Trace first (log ++ entry.toList) board'

/-- The board and its log agree on which orders are open. -/
structure Kept (log : List (Entry P O T)) (board : Board P O T) : Prop where
  pending_open : ∀ {plan order}, board.pending plan = some order →
    board.stage order = some .opened ∧ ∃ due, .made plan order due ∈ log
  pending_unique : ∀ {plan plan' order}, board.pending plan = some order →
    board.pending plan' = some order → plan = plan'
  made_settled : ∀ {plan order due}, .made plan order due ∈ log →
    board.pending plan = some order ∨ board.stage order = some .closed

theorem Kept.step {log : List (Entry P O T)} {entry : Option (Entry P O T)}
    {board board' : Board P O T} (h : Kept log board)
    (hstep : Step board entry board') : Kept (log ++ entry.toList) board' := by
  cases hstep with
  | begin hnew hfree =>
      simpa using ⟨h.pending_open, h.pending_unique, h.made_settled⟩
  | move hdue hfree hlater =>
      simpa using ⟨h.pending_open, h.pending_unique, h.made_settled⟩
  | edit hdue hfree =>
      refine ⟨fun hpending => ?_, h.pending_unique, fun hmade => ?_⟩
      · simpa using h.pending_open hpending
      · exact h.made_settled (by simpa using hmade)
  | stay => simpa using h
  | @make plan order due hdue hfree hnew =>
      -- an order already known to the board is not the new one
      have hother : ∀ {plan' order'}, board.pending plan' = some order' →
          order' ≠ order := by
        rintro plan' order' hpending rfl
        rw [(h.pending_open hpending).1] at hnew
        simp at hnew
      refine ⟨?_, ?_, ?_⟩
      · intro plan' order' hpending
        by_cases hplan : plan' = plan
        · subst hplan
          obtain rfl : order = order' := by simpa using hpending
          exact ⟨by simp, due, by simp⟩
        · simp only [update_of_ne hplan] at hpending
          obtain ⟨hopen, due', hmade⟩ := h.pending_open hpending
          exact ⟨by simpa [hother hpending] using hopen, due', by simp [hmade]⟩
      · intro left right order' hleft hright
        by_cases hl : left = plan
        · by_cases hr : right = plan
          · rw [hl, hr]
          · subst hl
            obtain rfl : order = order' := by simpa using hleft
            simp only [update_of_ne hr] at hright
            exact absurd rfl (hother hright)
        · simp only [update_of_ne hl] at hleft
          by_cases hr : right = plan
          · subst hr
            obtain rfl : order = order' := by simpa using hright
            exact absurd rfl (hother hleft)
          · simp only [update_of_ne hr] at hright
            exact h.pending_unique hleft hright
      · intro plan' order' due' hmade
        simp only [Option.toList_some, List.mem_append, List.mem_singleton,
          Entry.made.injEq] at hmade
        rcases hmade with hmade | ⟨rfl, rfl, rfl⟩
        · rcases h.made_settled hmade with hpending | hclosed
          · by_cases hplan : plan' = plan
            · rw [hplan, hfree] at hpending
              simp at hpending
            · exact Or.inl (by simpa [hplan] using hpending)
          · have hne : order' ≠ order := by
              rintro rfl
              rw [hclosed] at hnew
              simp at hnew
            exact Or.inr (by simpa [hne] using hclosed)
        · exact Or.inl (by simp)
  | @close plan order due due' moved hdue hpending hmoved =>
      refine ⟨?_, ?_, ?_⟩
      · intro plan' order' hpending'
        by_cases hplan : plan' = plan
        · subst hplan
          simp at hpending'
        · simp only [update_of_ne hplan] at hpending'
          have hne : order' ≠ order := by
            rintro rfl
            exact hplan (h.pending_unique hpending' hpending)
          obtain ⟨hopen, due'', hmade⟩ := h.pending_open hpending'
          exact ⟨by simpa [hne] using hopen, due'', by simp [hmade]⟩
      · intro left right order' hleft hright
        by_cases hl : left = plan
        · subst hl
          simp at hleft
        · by_cases hr : right = plan
          · subst hr
            simp at hright
          · simp only [update_of_ne hl] at hleft
            simp only [update_of_ne hr] at hright
            exact h.pending_unique hleft hright
      · intro plan' order' due'' hmade
        have hold : .made plan' order' due'' ∈ log := by simpa using hmade
        by_cases horder : order' = order
        · exact Or.inr (by simp [horder])
        · rcases h.made_settled hold with hpending' | hclosed
          · have hplan : plan' ≠ plan := by
              rintro rfl
              rw [hpending] at hpending'
              exact horder (Option.some.inj hpending').symm
            exact Or.inl (by simpa [hplan] using hpending')
          · exact Or.inr (by simpa [horder] using hclosed)

theorem Kept.trace {first last : Board P O T} {log : List (Entry P O T)}
    (hfirst : Kept [] first) (htrace : Trace first log last) : Kept log last := by
  induction htrace with
  | start => exact hfirst
  | step _ hstep ih => exact ih.step hstep

/-- An order becomes open only by being made. -/
theorem Step.pending_cases {entry : Option (Entry P O T)}
    {board board' : Board P O T} (hstep : Step board entry board') {plan : P}
    {order : O} (hpending : board'.pending plan = some order) :
    board.pending plan = some order ∨
      board.stage order = none ∧ ∃ due, entry = some (.made plan order due) := by
  cases hstep with
  | begin hnew hfree => exact Or.inl hpending
  | move hdue hfree hlater => exact Or.inl hpending
  | edit hdue hfree => exact Or.inl hpending
  | stay => exact Or.inl hpending
  | @make subject made due hdue hfree hnew =>
      by_cases hplan : plan = subject
      · subst hplan
        obtain rfl : made = order := by simpa using hpending
        exact Or.inr ⟨hnew, due, rfl⟩
      · exact Or.inl (by simpa [hplan] using hpending)
  | @close subject closed due due' moved hdue hopen hmoved =>
      by_cases hplan : plan = subject
      · subst hplan
        simp at hpending
      · exact Or.inl (by simpa [hplan] using hpending)

/-- An open order stays open until it is closed. -/
theorem Step.pending_kept {entry : Option (Entry P O T)}
    {board board' : Board P O T} (hstep : Step board entry board') {plan : P}
    {order : O} (hpending : board.pending plan = some order) :
    board'.pending plan = some order ∨
      ∃ moved, entry = some (.closed plan order moved) := by
  cases hstep with
  | begin hnew hfree => exact Or.inl hpending
  | move hdue hfree hlater => exact Or.inl hpending
  | edit hdue hfree => exact Or.inl hpending
  | stay => exact Or.inl hpending
  | @make subject made due hdue hfree hnew =>
      have hplan : plan ≠ subject := by
        rintro rfl
        rw [hfree] at hpending
        simp at hpending
      exact Or.inl (by simpa [hplan] using hpending)
  | @close subject closed due due' moved hdue hopen hmoved =>
      by_cases hplan : plan = subject
      · subst hplan
        obtain rfl := Option.some.inj (hopen.symm.trans hpending)
        exact Or.inr ⟨moved, rfl⟩
      · exact Or.inl (by simpa [hplan] using hpending)

omit [DecidableEq P] [DecidableEq O] [Preorder T] in
/-- A pair found in order in a list with one more element. -/
theorem pair_sublist_concat {left right new : Entry P O T}
    {log : List (Entry P O T)} (h : [left, right].Sublist (log ++ [new])) :
    [left, right].Sublist log ∨ (left ∈ log ∧ right = new) := by
  rw [List.sublist_append_iff] at h
  obtain ⟨before, after, hsplit, hbefore, hafter⟩ := h
  rcases List.sublist_singleton.mp hafter with rfl | rfl
  · rw [List.append_nil] at hsplit
    exact Or.inl (hsplit ▸ hbefore)
  · have hends : [left] ++ [right] = before ++ [new] := hsplit
    obtain ⟨rfl, hright⟩ := List.append_inj' hends rfl
    exact Or.inr ⟨by simpa using hbefore, by simpa using hright⟩

/-- How far a plan has moved past its orders: in particular, of two orders made
one after the other, the first is no longer open, and was closed without a move
unless the second was made at a later due moment. -/
structure Paced (plan : P) (log : List (Entry P O T)) (board : Board P O T) :
    Prop where
  made_known : ∀ {order due}, .made plan order due ∈ log →
    board.stage order ≠ none
  closed_known : ∀ {order moved}, .closed plan order moved ∈ log →
    board.stage order ≠ none
  pending_due : ∀ {order due}, board.pending plan = some order →
    .made plan order due ∈ log → board.due plan = some due
  made_past : ∀ {order due}, .made plan order due ∈ log →
    ∃ now, board.due plan = some now ∧ due ≤ now
  moved_past : ∀ {order due}, .made plan order due ∈ log →
    .closed plan order true ∈ log → ∃ now, board.due plan = some now ∧ due < now
  in_turn : ∀ {order order' due due'},
    [.made plan order due, .made plan order' due'].Sublist log →
    board.pending plan ≠ some order ∧
      (.closed plan order true ∈ log → due < due')

theorem Paced.make {plan : P} {order : O} {due : T}
    {log : List (Entry P O T)} {board : Board P O T} (h : Paced plan log board)
    (hdue : board.due plan = some due) (hnew : board.stage order = none) :
    Paced plan (log ++ [.made plan order due])
      { board with
        pending := update board.pending plan (some order)
        stage := update board.stage order (some .opened) } := by
  have hknown : ∀ {order'}, board.stage order' ≠ none → order' ≠ order := by
    rintro order' hstage rfl
    exact hstage hnew
  refine ⟨?_, ?_, ?_, ?_, ?_, ?_⟩
  · intro order' due' hmade
    simp only [List.mem_append, List.mem_singleton, Entry.made.injEq,
      true_and] at hmade
    rcases hmade with hmade | ⟨rfl, rfl⟩
    · have hstage := h.made_known hmade
      simpa [hknown hstage] using hstage
    · simp
  · intro order' moved hclosed
    have hstage := h.closed_known (by simpa using hclosed)
    simpa [hknown hstage] using hstage
  · intro order' due' hpending hmade
    obtain rfl : order = order' := by simpa using hpending
    simp only [List.mem_append, List.mem_singleton, Entry.made.injEq,
      true_and] at hmade
    rcases hmade with hmade | rfl
    · exact absurd hnew (h.made_known hmade)
    · exact hdue
  · intro order' due' hmade
    simp only [List.mem_append, List.mem_singleton, Entry.made.injEq,
      true_and] at hmade
    rcases hmade with hmade | ⟨_, rfl⟩
    · exact h.made_past hmade
    · exact ⟨_, hdue, le_refl _⟩
  · intro order' due' hmade hclosed
    have hold : .closed plan order' true ∈ log := by simpa using hclosed
    simp only [List.mem_append, List.mem_singleton, Entry.made.injEq,
      true_and] at hmade
    rcases hmade with hmade | ⟨rfl, rfl⟩
    · exact h.moved_past hmade hold
    · exact absurd hnew (h.closed_known hold)
  · intro left right earlier later hpair
    have hclosed : .closed plan left true ∈ log ++ [.made plan order due] →
        .closed plan left true ∈ log := by simp
    rcases pair_sublist_concat hpair with hpair | ⟨hleft, hright⟩
    · have hmem : .made plan left earlier ∈ log := hpair.subset (by simp)
      refine ⟨?_, fun hmoved => (h.in_turn hpair).2 (hclosed hmoved)⟩
      simpa using (hknown (h.made_known hmem)).symm
    · obtain ⟨-, rfl, rfl⟩ := Entry.made.inj hright
      refine ⟨by simpa using (hknown (h.made_known hleft)).symm, fun hmoved => ?_⟩
      obtain ⟨now, hnow, hlater⟩ := h.moved_past hleft (hclosed hmoved)
      obtain rfl := Option.some.inj (hdue.symm.trans hnow)
      exact hlater

theorem Paced.close {plan : P} {order : O} {due due' : T} {moved : Bool}
    {log : List (Entry P O T)} {board : Board P O T} (h : Paced plan log board)
    (hdue : board.due plan = some due)
    (hpending : board.pending plan = some order)
    (hmoved : if moved then due < due' else due' = due) :
    Paced plan (log ++ [.closed plan order moved])
      { due := update board.due plan (some due')
        pending := update board.pending plan none
        stage := update board.stage order (some .closed) } := by
  have hmade : ∀ {order' earlier},
      .made plan order' earlier ∈ log ++ [.closed plan order moved] →
        .made plan order' earlier ∈ log := by simp
  have hstage : ∀ {order'}, board.stage order' ≠ none →
      update board.stage order (some Stage.closed) order' ≠ none := by
    intro order' hknown
    by_cases heq : order' = order
    · simp [heq]
    · simpa [heq] using hknown
  have hforward : due ≤ due' := by
    cases moved with
    | true => exact le_of_lt hmoved
    | false => exact le_of_eq hmoved.symm
  refine ⟨fun hin => hstage (h.made_known (hmade hin)), ?_, by simp, ?_, ?_, ?_⟩
  · intro order' moved' hclosed
    simp only [List.mem_append, List.mem_singleton, Entry.closed.injEq,
      true_and] at hclosed
    rcases hclosed with hclosed | ⟨rfl, _⟩
    · exact hstage (h.closed_known hclosed)
    · simp
  · intro order' earlier hin
    obtain ⟨now, hnow, hpast⟩ := h.made_past (hmade hin)
    obtain rfl := Option.some.inj (hdue.symm.trans hnow)
    exact ⟨due', by simp, hpast.trans hforward⟩
  · intro order' earlier hin hclosed
    simp only [List.mem_append, List.mem_singleton, Entry.closed.injEq,
      true_and] at hclosed
    refine ⟨due', by simp, ?_⟩
    rcases hclosed with hclosed | ⟨rfl, rfl⟩
    · obtain ⟨now, hnow, hpast⟩ := h.moved_past (hmade hin) hclosed
      obtain rfl := Option.some.inj (hdue.symm.trans hnow)
      exact lt_of_lt_of_le hpast hforward
    · obtain rfl := Option.some.inj
        (hdue.symm.trans (h.pending_due hpending (hmade hin)))
      exact hmoved
  · intro left right earlier later hpair
    refine ⟨by simp, fun hclosed => ?_⟩
    rcases pair_sublist_concat hpair with hold | ⟨_, hright⟩
    · simp only [List.mem_append, List.mem_singleton, Entry.closed.injEq,
        true_and] at hclosed
      rcases hclosed with hclosed | ⟨rfl, _⟩
      · exact (h.in_turn hold).2 hclosed
      · exact absurd hpending (h.in_turn hold).1
    · simp at hright

omit [DecidableEq P] [DecidableEq O] in
/-- Steps that log nothing about a plan and leave its due moment and its open
order alone keep its pace. -/
theorem Paced.frame {plan : P} {log : List (Entry P O T)}
    {entry : Option (Entry P O T)} {board board' : Board P O T}
    (h : Paced plan log board) (hdue : board'.due plan = board.due plan)
    (hpending : board'.pending plan = board.pending plan)
    (hstage : ∀ order, board.stage order ≠ none → board'.stage order ≠ none)
    (hmade : ∀ order due, entry ≠ some (.made plan order due))
    (hclosed : ∀ order moved, entry ≠ some (.closed plan order moved)) :
    Paced plan (log ++ entry.toList) board' := by
  have hmadeLog : ∀ {order due}, .made plan order due ∈ log ++ entry.toList →
      .made plan order due ∈ log := fun hin =>
    (List.mem_append.mp hin).resolve_right fun hnew =>
      hmade _ _ (Option.mem_toList.mp hnew)
  have hclosedLog : ∀ {order moved},
      .closed plan order moved ∈ log ++ entry.toList →
      .closed plan order moved ∈ log := fun hin =>
    (List.mem_append.mp hin).resolve_right fun hnew =>
      hclosed _ _ (Option.mem_toList.mp hnew)
  refine ⟨fun hin => hstage _ (h.made_known (hmadeLog hin)),
    fun hin => hstage _ (h.closed_known (hclosedLog hin)), ?_, ?_, ?_, ?_⟩
  · intro order due hopen hin
    rw [hdue]
    exact h.pending_due (hpending ▸ hopen) (hmadeLog hin)
  · intro order due hin
    rw [hdue]
    exact h.made_past (hmadeLog hin)
  · intro order due hin hin'
    rw [hdue]
    exact h.moved_past (hmadeLog hin) (hclosedLog hin')
  · intro order order' due due' hpair
    have hold : [.made plan order due, .made plan order' due'].Sublist log := by
      cases entry with
      | none => simpa using hpair
      | some entry =>
          rcases pair_sublist_concat hpair with hold | ⟨_, hright⟩
          · exact hold
          · exact absurd (congrArg some hright.symm) (hmade order' due')
    rw [hpending]
    exact ⟨(h.in_turn hold).1, fun hin => (h.in_turn hold).2 (hclosedLog hin)⟩

omit [DecidableEq P] [DecidableEq O] in
/-- The due moment may move forward while no order is open. -/
theorem Paced.advance {plan : P} {log : List (Entry P O T)}
    {board board' : Board P O T} (h : Paced plan log board)
    (hdue : ∀ due, board.due plan = some due →
      ∃ due', board'.due plan = some due' ∧ due ≤ due')
    (hfree : board.pending plan = none)
    (hpending : board'.pending = board.pending)
    (hstage : board'.stage = board.stage) : Paced plan log board' := by
  refine ⟨?_, ?_, ?_, ?_, ?_, ?_⟩
  · rw [hstage]
    exact h.made_known
  · rw [hstage]
    exact h.closed_known
  · intro order due hopen _
    rw [hpending, hfree] at hopen
    simp at hopen
  · intro order due hin
    obtain ⟨now, hnow, hpast⟩ := h.made_past hin
    obtain ⟨due', hdue', hforward⟩ := hdue now hnow
    exact ⟨due', hdue', hpast.trans hforward⟩
  · intro order due hin hin'
    obtain ⟨now, hnow, hpast⟩ := h.moved_past hin hin'
    obtain ⟨due', hdue', hforward⟩ := hdue now hnow
    exact ⟨due', hdue', lt_of_lt_of_le hpast hforward⟩
  · rw [hpending]
    exact h.in_turn

theorem Paced.step {plan : P} {log : List (Entry P O T)}
    {entry : Option (Entry P O T)} {board board' : Board P O T}
    (h : Paced plan log board) (hstep : Step board entry board')
    (hunedited : entry ≠ some (.edited plan)) :
    Paced plan (log ++ entry.toList) board' := by
  cases hstep with
  | @«begin» subject due hnew hfree =>
      by_cases hsubject : subject = plan
      · subst hsubject
        have hmoved : Paced subject log
            { board with due := update board.due subject (some due) } :=
          h.advance (by simp [hnew]) hfree rfl rfl
        simpa using hmoved
      · exact h.frame (by simp [Ne.symm hsubject]) rfl (fun _ hknown => hknown)
          (by simp) (by simp)
  | @make subject order due hdue hfree hnew =>
      by_cases hsubject : subject = plan
      · subst hsubject
        exact h.make hdue hnew
      · refine h.frame rfl (by simp [Ne.symm hsubject]) (fun other hknown => ?_)
          (by simp [hsubject]) (by simp)
        by_cases hother : other = order
        · simp [hother]
        · simpa [hother] using hknown
  | @close subject order due due' moved hdue hpending hmoved =>
      by_cases hsubject : subject = plan
      · subst hsubject
        exact h.close hdue hpending hmoved
      · refine h.frame (by simp [Ne.symm hsubject]) (by simp [Ne.symm hsubject])
          (fun other hknown => ?_) (by simp) (by simp [hsubject])
        by_cases hother : other = order
        · simp [hother]
        · simpa [hother] using hknown
  | @move subject due due' hdue hfree hlater =>
      by_cases hsubject : subject = plan
      · subst hsubject
        have hmoved : Paced subject log
            { board with due := update board.due subject (some due') } :=
          h.advance (by simp [hdue, le_of_lt hlater]) hfree rfl rfl
        simpa using hmoved
      · exact h.frame (by simp [Ne.symm hsubject]) rfl (fun _ hknown => hknown)
          (by simp) (by simp)
  | @edit subject due due' hdue hfree =>
      have hsubject : subject ≠ plan := by
        rintro rfl
        exact hunedited rfl
      exact h.frame (by simp [Ne.symm hsubject]) rfl (fun _ hknown => hknown)
        (by simp) (by simp)
  | stay => simpa using h

theorem Paced.trace {plan : P} {first last : Board P O T}
    {log : List (Entry P O T)} (hfirst : Paced plan [] first)
    (htrace : Trace first log last) (hunedited : .edited plan ∉ log) :
    Paced plan log last := by
  induction htrace with
  | start => exact hfirst
  | step _ hstep ih =>
      rw [List.mem_append, not_or, Option.mem_toList] at hunedited
      exact (ih hunedited.1).step hstep hunedited.2

omit [DecidableEq P] [DecidableEq O] in
theorem Paced.nil (plan : P) (board : Board P O T) : Paced plan [] board := by
  refine ⟨?_, ?_, ?_, ?_, ?_, ?_⟩ <;> simp

end Recurrence
