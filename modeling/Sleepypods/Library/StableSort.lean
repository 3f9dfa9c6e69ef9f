import Mathlib

/-! Stable sorting by rank: items of one rank keep the order they had. -/

set_option autoImplicit false

namespace Library

variable {α : Type} {rank : α → Nat} {items : List α}

def sortByRank (rank : α → Nat) (items : List α) : List α :=
  items.mergeSort fun former latter => decide (rank former ≤ rank latter)

theorem mem_sortByRank {item : α} : item ∈ sortByRank rank items ↔ item ∈ items :=
  List.mem_mergeSort

private theorem rank_trans (former middle latter : α)
    (first : decide (rank former ≤ rank middle) = true)
    (second : decide (rank middle ≤ rank latter) = true) :
    decide (rank former ≤ rank latter) = true :=
  decide_eq_true (le_trans (of_decide_eq_true first) (of_decide_eq_true second))

private theorem rank_total (former latter : α) :
    (decide (rank former ≤ rank latter) || decide (rank latter ≤ rank former)) = true := by
  rw [Bool.or_eq_true, decide_eq_true_iff, decide_eq_true_iff]
  exact le_total _ _

theorem pairwise_sortByRank :
    (sortByRank rank items).Pairwise fun former latter => rank former ≤ rank latter := by
  apply List.Pairwise.imp of_decide_eq_true
  exact List.pairwise_mergeSort rank_trans rank_total items

theorem sortByRank_of_pairwise
    (sorted : items.Pairwise fun former latter => rank former ≤ rank latter) :
    sortByRank rank items = items :=
  List.mergeSort_of_pairwise (sorted.imp decide_eq_true)

theorem filter_sortByRank {keeps : α → Bool} {level : Nat}
    (alike : ∀ item ∈ items, keeps item = true → rank item = level) :
    (sortByRank rank items).filter keeps = items.filter keeps := by
  have leveled : (items.filter keeps).Pairwise fun former latter =>
      decide (rank former ≤ rank latter) = true := by
    apply List.pairwise_of_forall_mem_list
    intro former formerKept latter latterKept
    obtain ⟨formerMember, formerKeeps⟩ := List.mem_filter.mp formerKept
    obtain ⟨latterMember, latterKeeps⟩ := List.mem_filter.mp latterKept
    rw [alike former formerMember formerKeeps, alike latter latterMember latterKeeps]
    exact decide_eq_true le_rfl
  have inside : (items.filter keeps).Sublist (sortByRank rank items) :=
    List.sublist_mergeSort rank_trans rank_total leveled List.filter_sublist
  have kept : (items.filter keeps).Sublist ((sortByRank rank items).filter keeps) := by
    have filtered := inside.filter keeps
    rwa [List.filter_filter, List.filter_congr (fun _ _ => Bool.and_self _)] at filtered
  have asMany : (items.filter keeps).length = ((sortByRank rank items).filter keeps).length :=
    ((List.mergeSort_perm items _).filter keeps).length_eq.symm
  exact (kept.eq_of_length asMany).symm

theorem find?_sortByRank {keeps : α → Bool} {level : Nat}
    (alike : ∀ item ∈ items, keeps item = true → rank item = level) :
    (sortByRank rank items).find? keeps = items.find? keeps := by
  rw [← List.head?_filter, filter_sortByRank alike, List.head?_filter]

end Library
