/-
Histories: entries that come only after what they need, and spans of time that
follow each other.
-/
import Mathlib.Data.List.Induction
import Mathlib.Order.Defs.PartialOrder

namespace Histories

universe u v

variable {α : Type u} {τ : Type v} {needs : List α → α → Prop} {entries : List α}

/-- What comes before each entry of a history is what that entry needs. -/
def Preceded (needs : List α → α → Prop) (entries : List α) : Prop :=
  ∀ before entry after, entries = before ++ entry :: after → needs before entry

theorem preceded_nil : Preceded needs [] := by
  intro before entry after heq
  simp at heq

theorem preceded_concat {last : α} : Preceded needs (entries ++ [last]) ↔
    Preceded needs entries ∧ needs entries last := by
  constructor
  · intro h
    constructor
    · intro before entry after heq
      exact h before entry (after ++ [last]) (by rw [heq]; simp)
    · exact h entries last [] rfl
  · intro h
    rcases h with ⟨hentries, hlast⟩
    intro before entry after heq
    rcases List.eq_nil_or_concat after with rfl | ⟨rest, other, rfl⟩
    · rcases List.append_inj' heq rfl with ⟨rfl, hsame⟩
      obtain rfl := List.head_eq_of_cons_eq hsame
      exact hlast
    · have hsplit : entries ++ [last] = (before ++ entry :: rest) ++ [other] := by
        rw [heq]
        simp
      rcases List.append_inj' hsplit rfl with ⟨rfl, _⟩
      exact hentries before entry rest rfl

theorem Preceded.concat (hentries : Preceded needs entries) {last : α}
    (hlast : needs entries last) : Preceded needs (entries ++ [last]) :=
  preceded_concat.mpr ⟨hentries, hlast⟩

theorem Preceded.cons {first : α} (hfirst : needs [] first)
    (hrest : Preceded (fun before => needs (first :: before)) entries) :
    Preceded needs (first :: entries) := by
  intro before entry after heq
  cases before with
  | nil =>
      obtain rfl := (List.cons.inj heq).1
      exact hfirst
  | cons head before =>
      rcases List.cons.inj heq with ⟨rfl, hsplit⟩
      exact hrest before entry after hsplit

section Spans

variable [Preorder τ] {start finish : α → τ} {spans : List α}

/-- No span of a history begins before an earlier one has ended. -/
def Successive (start finish : α → τ) (spans : List α) : Prop :=
  spans.Pairwise fun earlier later => finish earlier ≤ start later

theorem Successive.le_last (hspans : Successive start finish spans)
    (hends : ∀ span, start span ≤ finish span) {last : α} (hlast : last ∈ spans.getLast?) :
    ∀ span ∈ spans, finish span ≤ finish last := by
  rcases List.eq_nil_or_concat spans with rfl | ⟨earlier, final, rfl⟩
  · simp at hlast
  · rw [List.concat_eq_append] at hspans hlast ⊢
    obtain rfl : final = last := by simpa using hlast
    intro span hspan
    rw [Successive, List.pairwise_append] at hspans
    rcases List.mem_append.mp hspan with hspan | hspan
    · exact le_trans (hspans.2.2 span hspan final (List.mem_singleton_self _)) (hends final)
    · obtain rfl := List.mem_singleton.mp hspan
      exact le_rfl

/-- A span that begins after the last one has ended begins after all of them. -/
theorem Successive.concat (hspans : Successive start finish spans)
    (hends : ∀ span, start span ≤ finish span) {span : α}
    (hlast : ∀ last ∈ spans.getLast?, finish last ≤ start span) :
    Successive start finish (spans ++ [span]) := by
  rw [Successive, List.pairwise_append]
  constructor
  · exact hspans
  · constructor
    · exact List.pairwise_singleton _ _
    · intro earlier hearlier later hlater
      obtain rfl := List.mem_singleton.mp hlater
      cases hfinal : spans.getLast? with
      | none => simp [List.getLast?_eq_none_iff.mp hfinal] at hearlier
      | some last =>
          exact le_trans (hspans.le_last hends hfinal earlier hearlier) (hlast last hfinal)

end Spans

end Histories
