import FluentSql.Proofs.Chain.Kind

/-!
# Chains in another order

Calls of different kinds may be given in any order: a chain and another one with the same calls, in
the same order within each kind, are both refused, or come to the same plan.

Results:
1. `foldlM_reordered`: a run whose steps commute comes to the same in both orders.
2. `Draft.call_comm`: calls of different kinds commute.
3. `Chain.plan_reordered`: chains that are reordered in this way have the same plan or none.
-/

namespace FluentSql

/-! ## Steps in another order -/

section

variable {α κ state : Type} [DecidableEq κ] {kind : α → κ} {step : state → α → Option state}

/-- A step that commutes with all steps before it can be made first. -/
theorem foldlM_past {item : α} {before : List α}
    (commutes : ∀ other ∈ before, ∀ now,
      (step now other).bind (step · item) = (step now item).bind (step · other))
    (after : List α) (now : state) :
    (before ++ item :: after).foldlM step now = (item :: (before ++ after)).foldlM step now := by
  induction before generalizing now with
  | nil => rfl
  | cons other before ih =>
    obtain ⟨swaps, others⟩ := List.forall_mem_cons.mp commutes
    calc (other :: before ++ item :: after).foldlM step now
        = (step now other).bind fun next => (before ++ item :: after).foldlM step next := rfl
      _ = (step now other).bind fun next => (item :: (before ++ after)).foldlM step next := by
        simp only [ih others]
      _ = ((step now other).bind (step · item)).bind fun next =>
            (before ++ after).foldlM step next := (Option.bind_assoc ..).symm
      _ = ((step now item).bind (step · other)).bind fun next =>
            (before ++ after).foldlM step next := by rw [swaps now]
      _ = (item :: (other :: before ++ after)).foldlM step now := Option.bind_assoc ..

/-- Steps of different kinds that commute can be made in any order that keeps the order within each
kind. -/
theorem foldlM_reordered
    (commutes : ∀ now earlier later, kind earlier ≠ kind later →
      (step now earlier).bind (step · later) = (step now later).bind (step · earlier))
    {items items' : List α}
    (same : ∀ k, items'.filter (kind · = k) = items.filter (kind · = k)) (now : state) :
    items'.foldlM step now = items.foldlM step now := by
  induction items generalizing items' now with
  | nil =>
    cases items' with
    | nil => rfl
    | cons item rest => simpa using same (kind item)
  | cons item rest ih =>
    -- The first item stands in the other list behind items of other kinds only.
    have own := same (kind item)
    rw [List.filter_cons_of_pos (by simp)] at own
    obtain ⟨before, after, rfl, apart, -, later⟩ := List.filter_eq_cons_iff.mp own
    have others : ∀ k, (before ++ after).filter (kind · = k) = rest.filter (kind · = k) := by
      intro k
      by_cases this : kind item = k
      · subst this
        rw [List.filter_append, List.filter_eq_nil_iff.mpr apart, List.nil_append, later]
      · have whole := same k
        rwa [List.filter_append, List.filter_cons_of_neg (by simpa using this), ← List.filter_append,
          List.filter_cons_of_neg (by simpa using this)] at whole
    have swaps : ∀ other ∈ before, ∀ now,
        (step now other).bind (step · item) = (step now item).bind (step · other) :=
      fun other present now => commutes now other item (by simpa using apart other present)
    rw [foldlM_past swaps, List.foldlM_cons, List.foldlM_cons]
    exact congrArg (Option.bind _) (funext fun next => ih others next)

/-- Whether a run fails, and what it comes to, is left of a run with errors. -/
theorem toOption_foldlM {ε : Type} (step : state → α → Except ε state) (items : List α)
    (now : state) :
    (items.foldlM step now).toOption =
      items.foldlM (fun now item => (step now item).toOption) now := by
  induction items generalizing now with
  | nil => rfl
  | cons item rest ih =>
    rw [List.foldlM_cons, List.foldlM_cons]
    cases step now item with
    | error error => rfl
    | ok next => exact ih next

end

/-! ## Calls in another order -/

namespace Draft

/-- Calls of different kinds commute, up to the error that comes first. -/
theorem call_comm (draft : Draft) (earlier later : Call) (apart : earlier.kind ≠ later.kind) :
    (draft.call earlier).toOption.bind (fun next => (next.call later).toOption) =
      (draft.call later).toOption.bind (fun next => (next.call earlier).toOption) := by
  cases first : draft.call earlier with
  | error error =>
    cases second : draft.call later with
    | error => rfl
    | ok next =>
      have refused := call_after second (Ne.symm apart)
      rw [first] at refused
      simp [Except.toOption, refused]
  | ok reached =>
    have taken := call_after first apart
    cases second : draft.call later with
    | error error =>
      rw [second] at taken
      simp [Except.toOption, taken]
    | ok next =>
      have taken' := call_after second (Ne.symm apart)
      rw [first] at taken'
      rw [second] at taken
      -- Each call has left what the other one says as it was.
      have same : next.taking earlier.kind reached = reached.taking later.kind next := by
        calc next.taking earlier.kind reached
            = (draft.taking later.kind next).taking earlier.kind reached := by
              rw [← eq_taking_of_call second]
          _ = (draft.taking earlier.kind reached).taking later.kind next :=
              taking_comm (Ne.symm apart) ..
          _ = reached.taking later.kind next := by rw [← eq_taking_of_call first]
      simp [Except.toOption, taken, taken', same]

end Draft

/-! ## Chains -/

/-- The same calls on the same table, in the same order within each kind. -/
structure Chain.Reorders (chain chain' : Chain) : Prop where
  table : chain'.table = chain.table
  calls : chain'.calls.Perm chain.calls
  order : ∀ kind, chain'.calls.filter (·.kind = kind) = chain.calls.filter (·.kind = kind)

theorem Draft.ofChain_reordered {chain chain' : Chain} (reorders : chain.Reorders chain') :
    (ofChain chain').toOption = (ofChain chain).toOption := by
  rw [ofChain, ofChain, toOption_foldlM, toOption_foldlM, reorders.table]
  exact foldlM_reordered call_comm reorders.order _

/-- The main result: a chain and the same calls in another order, which keeps the order within each
kind, are both refused, or come to the same plan. Only the error may be another one. -/
theorem Chain.plan_reordered {chain chain' : Chain} (reorders : chain.Reorders chain') :
    (∃ error error', chain.plan = .error error ∧ chain'.plan = .error error') ∨
      ∃ plan, chain.plan = .ok plan ∧ chain'.plan = .ok plan := by
  have drafts := Draft.ofChain_reordered reorders
  rw [Chain.plan, Chain.plan]
  cases drafted : Draft.ofChain chain with
  | error error =>
    cases drafted' : Draft.ofChain chain' with
    | error error' => exact .inl ⟨error, error', rfl, rfl⟩
    | ok draft =>
      rw [drafted, drafted'] at drafts
      cases drafts
  | ok draft =>
    cases drafted' : Draft.ofChain chain' with
    | error error =>
      rw [drafted, drafted'] at drafts
      cases drafts
    | ok draft' =>
      rw [drafted, drafted'] at drafts
      cases drafts
      rw [ok_bind]
      cases draft.plan with
      | error error => exact .inl ⟨error, error, rfl, rfl⟩
      | ok plan => exact .inr ⟨plan, rfl, rfl⟩

/-! ## A catalogue -/

namespace Catalogue

/-- Which books are wanted. -/
def wanted : List Call :=
  [.select "title" .default, .filter (.compare .eq "shelf" (.int 3)),
    .filter (.compare .gt "pages" (.int 200))]

/-- How they are to be given; the second limit counts. -/
def given : List Call := [.order ⟨"title", true, none⟩, .limit 9, .limit 5, .atMostOne]

def first : Chain := ⟨"books", wanted ++ given⟩

def second : Chain := ⟨"books", given ++ wanted⟩

theorem first_reorders : first.Reorders second where
  table := rfl
  calls := List.perm_append_comm
  order := by
    intro kind
    cases kind <;> rfl

theorem given_first :
    first.Reorders second ∧ ∃ plan, first.plan = .ok plan ∧ second.plan = .ok plan := by
  refine ⟨first_reorders, ?_⟩
  have planned : first.plan.toBool = true := by decide +kernel
  rcases Chain.plan_reordered first_reorders with ⟨error, _, refused, -⟩ | same
  · rw [refused] at planned
    cases planned
  · exact same

end Catalogue

end FluentSql
