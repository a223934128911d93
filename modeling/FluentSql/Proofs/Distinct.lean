import Mathlib.Data.List.Nodup

/-!
# First occurrences

The distinct elements of a list stand in the order in which they first occur in it, each once
(`pairwise_eraseDups`, `eraseDups_eq_firstOccurrences`).
-/

namespace FluentSql

variable {α : Type} [BEq α] [LawfulBEq α] {first : α} {items : List α}

theorem idxOf_cons_of_ne {item : α} (other : item ≠ first) :
    (first :: items).idxOf item = items.idxOf item + 1 := by
  rw [List.idxOf_cons, beq_false_of_ne (Ne.symm other)]
  rfl

/-- What is left out of a list does not change which of two others occurs first. -/
theorem idxOf_lt_of_filter {keeps : α → Bool} {a b : α} (kept : keeps b = true)
    (before : (items.filter keeps).idxOf a < (items.filter keeps).idxOf b) :
    items.idxOf a < items.idxOf b := by
  induction items with
  | nil => exact before
  | cons head rest ih =>
    by_cases last : b = head
    · subst last
      rw [List.filter_cons_of_pos kept, List.idxOf_cons_self] at before
      cases before
    · by_cases this : a = head
      · subst this
        rw [List.idxOf_cons_self, idxOf_cons_of_ne last]
        exact Nat.succ_pos _
      · rw [idxOf_cons_of_ne last, idxOf_cons_of_ne this]
        refine Nat.succ_lt_succ (ih ?_)
        cases keep : keeps head with
        | true =>
          rw [List.filter_cons_of_pos keep, idxOf_cons_of_ne last, idxOf_cons_of_ne this] at before
          exact Nat.lt_of_succ_lt_succ before
        | false =>
          rwa [List.filter_cons_of_neg (by simp [keep])] at before

/-- Distinct elements stand in the order of their first occurrence. The induction is on the length,
since the elements that are equal to the first are taken out of the rest. -/
theorem pairwise_eraseDups (items : List α) :
    items.eraseDups.Pairwise fun a b => items.idxOf a < items.idxOf b := by
  cases items with
  | nil => exact .nil
  | cons first rest =>
    rw [List.eraseDups_cons, List.pairwise_cons]
    have others : ∀ item ∈ (rest.filter fun item => !item == first).eraseDups,
        (!item == first) = true := by
      intro item present
      exact (List.mem_filter.mp (List.mem_eraseDups.mp present)).2
    have apart item present : item ≠ first :=
      ne_of_beq_false (by simpa using others item present)
    constructor
    · intro item present
      rw [List.idxOf_cons_self, idxOf_cons_of_ne (apart item present)]
      exact Nat.succ_pos _
    · refine (pairwise_eraseDups (rest.filter fun item => !item == first)).imp_of_mem ?_
      intro a b left right before
      rw [idxOf_cons_of_ne (apart a left), idxOf_cons_of_ne (apart b right)]
      exact Nat.succ_lt_succ (idxOf_lt_of_filter (others b right) before)
termination_by items.length
decreasing_by
  exact Nat.lt_succ_of_le (List.length_filter_le _ _)

theorem nodup_eraseDups (items : List α) : items.eraseDups.Nodup :=
  (pairwise_eraseDups items).imp fun before => ne_of_apply_ne items.idxOf (Nat.ne_of_lt before)

/-- The elements of a list, each where it first occurs. -/
def firstOccurrences {α : Type} [BEq α] : List α → List α
  | [] => []
  | first :: rest => first :: (firstOccurrences rest).filter (!· == first)

theorem firstOccurrences_filter (keeps : α → Bool) (items : List α) :
    firstOccurrences (items.filter keeps) = (firstOccurrences items).filter keeps := by
  induction items with
  | nil => rfl
  | cons first rest ih =>
    rw [firstOccurrences]
    cases kept : keeps first with
    | true =>
      rw [List.filter_cons_of_pos kept, List.filter_cons_of_pos kept, firstOccurrences, ih,
        List.filter_filter, List.filter_filter]
      simp only [Bool.and_comm]
    | false =>
      -- What is kept is not the first element, so that nothing more is taken out of the rest.
      have others : ∀ item, (keeps item && !item == first) = keeps item := by
        intro item
        by_cases same : item = first
        · rw [same, kept, Bool.false_and]
        · rw [beq_false_of_ne same, Bool.not_false, Bool.and_true]
      rw [List.filter_cons_of_neg (by simp [kept]), List.filter_cons_of_neg (by simp [kept]), ih,
        List.filter_filter]
      simp only [others]

/-- The distinct elements of a list are those that first occur in it. -/
theorem eraseDups_eq_firstOccurrences (items : List α) :
    items.eraseDups = firstOccurrences items := by
  cases items with
  | nil => rfl
  | cons first rest =>
    rw [List.eraseDups_cons, firstOccurrences,
      eraseDups_eq_firstOccurrences (rest.filter fun item => !item == first),
      firstOccurrences_filter]
termination_by items.length
decreasing_by
  exact Nat.lt_succ_of_le (List.length_filter_le _ _)

end FluentSql
