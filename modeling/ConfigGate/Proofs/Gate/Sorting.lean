import ConfigGate.Proofs.Gate.Arrangement
import Mathlib.Data.List.Forall2

/-!
# Sorting and its parts

A stable sort puts an entry behind those that must stand before it and in front of all others,
whatever these are: `mergeSort_split`. So leaving entries out does not move the others, and lists
that agree entry by entry on what decides the places still agree entry by entry when sorted.

Results:
1. `filter_mergeSort`, `Finding.filter_sort`: filtering and sorting commute;
2. `forall₂_mergeSort`, `Finding.forall₂_sort`: sorting keeps lists related entry by entry.
-/

namespace ConfigGate

section Sorting

variable {α : Type} {le : α → α → Bool} {related : α → α → Prop}

/-- The entries that an entry must not stand before come first, then that entry, then the others. -/
theorem mergeSort_split (trans : ∀ a b c, le a b = true → le b c = true → le a c = true)
    (total : ∀ a b, (le a b || le b a) = true) (first : α) (others : List α) :
    (others.mergeSort le).filter (fun other => !le first other) ++
        (others.mergeSort le).filter (le first) = others.mergeSort le ∧
      (first :: others).mergeSort le =
        (others.mergeSort le).filter (fun other => !le first other) ++
          first :: (others.mergeSort le).filter (le first) := by
  obtain ⟨front, back, whole, rest, above⟩ := List.mergeSort_cons trans total first others
  have sorted := List.pairwise_mergeSort trans total (first :: others)
  rw [whole] at sorted
  have below := (List.pairwise_cons.mp (List.pairwise_append.mp sorted).2.1).1
  have frontKept : front.filter (fun other => !le first other) = front :=
    List.filter_eq_self.mpr above
  have frontLeft : front.filter (le first) = [] :=
    List.filter_eq_nil_iff.mpr fun other member => by simpa using above other member
  have backLeft : back.filter (fun other => !le first other) = [] :=
    List.filter_eq_nil_iff.mpr fun other member => by simp [below other member]
  have backKept : back.filter (le first) = back := List.filter_eq_self.mpr below
  rw [whole, rest, List.filter_append, List.filter_append, frontKept, frontLeft, backLeft,
    backKept, List.append_nil, List.nil_append]
  exact ⟨rfl, rfl⟩

/-- Leaving entries out of a sorted list is sorting what is left. -/
theorem filter_mergeSort (trans : ∀ a b c, le a b = true → le b c = true → le a c = true)
    (total : ∀ a b, (le a b || le b a) = true) (keep : α → Bool) (entries : List α) :
    (entries.mergeSort le).filter keep = (entries.filter keep).mergeSort le := by
  induction entries with
  | nil => simp
  | cons first others ih =>
      have commute (test : α → Bool) :
          ((others.mergeSort le).filter test).filter keep =
            ((others.filter keep).mergeSort le).filter test := by
        rw [← ih, List.filter_filter, List.filter_filter]
        simp only [Bool.and_comm]
      obtain ⟨rest, whole⟩ := mergeSort_split trans total first (others.filter keep)
      rw [(mergeSort_split trans total first others).2, List.filter_append, List.filter_cons,
        commute, commute]
      cases kept : keep first with
      | true =>
          rw [List.filter_cons_of_pos kept, whole]
          rfl
      | false =>
          rw [List.filter_cons_of_neg (by simp [kept])]
          exact rest

/-- Lists whose entries are related stay so when they are sorted, if related entries compare
alike. -/
theorem forall₂_mergeSort (trans : ∀ a b c, le a b = true → le b c = true → le a c = true)
    (total : ∀ a b, (le a b || le b a) = true)
    (alike : ∀ {a b a' b'}, related a a' → related b b' → le a b = le a' b')
    {left right : List α} (pairs : List.Forall₂ related left right) :
    List.Forall₂ related (left.mergeSort le) (right.mergeSort le) := by
  induction pairs with
  | nil => simp
  | @cons first first' others others' pair _ ih =>
      rw [(mergeSort_split trans total first others).2,
        (mergeSort_split trans total first' others').2]
      have above : List.Forall₂ related
          ((others.mergeSort le).filter fun other => !le first other)
          ((others'.mergeSort le).filter fun other => !le first' other) :=
        List.rel_filter (fun _ _ both => by simp [alike pair both]) ih
      have below : List.Forall₂ related ((others.mergeSort le).filter (le first))
          ((others'.mergeSort le).filter (le first')) :=
        List.rel_filter (fun _ _ both => by simp [alike pair both]) ih
      exact List.rel_append above (.cons pair below)

end Sorting

namespace Finding

/-- Leaving findings out of a report does not move the others. -/
theorem filter_sort (keep : Finding → Bool) (findings : List Finding) :
    (sort findings).filter keep = sort (findings.filter keep) :=
  filter_mergeSort atMost_trans atMost_total keep findings

/-- The headings of two findings decide which may stand before the other. -/
theorem atMost_congr {left right left' right' : Finding} (leftSame : left'.heading = left.heading)
    (rightSame : right'.heading = right.heading) : left.atMost right = left'.atMost right' := by
  simp only [heading, Prod.mk.injEq] at leftSame rightSame
  simp only [atMost, order, leftSame, rightSame]

/-- Findings with the same headings take the same places in a report. -/
theorem forall₂_sort {related : Finding → Finding → Prop}
    (alike : ∀ {left right}, related left right → right.heading = left.heading)
    {left right : List Finding} (pairs : List.Forall₂ related left right) :
    List.Forall₂ related (sort left) (sort right) :=
  forall₂_mergeSort atMost_trans atMost_total
    (fun first second => atMost_congr (alike first) (alike second)) pairs

end Finding

end ConfigGate
