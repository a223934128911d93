import Mathlib.Data.List.Forall2

/-!
# Outcomes

Steps that may fail, one after the other, and the same step on every item of a list.
-/

namespace FluentSql

variable {ε α β : Type}

@[simp] theorem ok_bind (value : α) (next : α → Except ε β) : (.ok value >>= next) = next value := rfl

@[simp] theorem error_bind (error : ε) (next : α → Except ε β) :
    (.error error >>= next) = .error error := rfl

@[simp] theorem map_ok (f : α → β) (value : α) : (.ok value : Except ε α).map f = .ok (f value) := rfl

@[simp] theorem map_error (f : α → β) (error : ε) :
    (.error error : Except ε α).map f = .error error := rfl

@[simp] theorem functor_map_eq (f : α → β) (outcome : Except ε α) : f <$> outcome = outcome.map f := rfl

@[simp] theorem pure_eq_ok (value : α) : (pure value : Except ε α) = .ok value := rfl

theorem bind_eq_ok_iff {first : Except ε α} {next : α → Except ε β} {result : β} :
    first >>= next = .ok result ↔ ∃ value, first = .ok value ∧ next value = .ok result := by
  cases first <;> simp

theorem map_eq_ok_iff {outcome : Except ε α} {f : α → β} {result : β} :
    outcome.map f = .ok result ↔ ∃ value, outcome = .ok value ∧ f value = result := by
  cases outcome <;> simp

/-- A step succeeds on a list when it succeeds on every item. -/
theorem mapM_eq_ok_iff {step : α → Except ε β} {items : List α} {results : List β} :
    items.mapM step = .ok results ↔
      List.Forall₂ (fun item result => step item = .ok result) items results := by
  induction items generalizing results with
  | nil => simp [eq_comm]
  | cons item rest ih =>
    rw [List.mapM_cons, bind_eq_ok_iff]
    constructor
    · rintro ⟨value, found, later⟩
      obtain ⟨values, rest', same⟩ := bind_eq_ok_iff.mp later
      cases same
      exact .cons found (ih.mp rest')
    · intro all
      cases all with
      | cons found rest' => exact ⟨_, found, bind_eq_ok_iff.mpr ⟨_, ih.mpr rest', rfl⟩⟩

/-- Every item of a list has a partner in a list of partners. -/
theorem exists_of_mem_forall₂ {related : α → β → Prop} {items : List α} {partners : List β}
    (pairs : List.Forall₂ related items partners) {item : α} (present : item ∈ items) :
    ∃ partner ∈ partners, related item partner := by
  induction pairs with
  | nil => cases present
  | @cons first partner _ partners pair _ ih =>
    rcases List.mem_cons.mp present with rfl | present
    · exact ⟨partner, List.mem_cons_self, pair⟩
    · obtain ⟨other, listed, paired⟩ := ih present
      exact ⟨other, List.mem_cons_of_mem partner listed, paired⟩

/-- Every result of a step on a list is the result of an item. -/
theorem exists_of_mem_mapM {step : α → Except ε β} {items : List α} {results : List β}
    (all : items.mapM step = .ok results) :
    ∀ result ∈ results, ∃ item ∈ items, step item = .ok result :=
  fun _ present => exists_of_mem_forall₂ (mapM_eq_ok_iff.mp all).flip present

/-- A step that fails on a list fails on one of its items, with the same error. -/
theorem exists_of_mapM_error {step : α → Except ε β} {items : List α} {error : ε}
    (fails : items.mapM step = .error error) : ∃ item ∈ items, step item = .error error := by
  induction items with
  | nil => cases fails
  | cons item rest ih =>
    rw [List.mapM_cons] at fails
    cases first : step item with
    | error fault =>
      rw [first] at fails
      cases fails
      exact ⟨item, List.mem_cons_self, first⟩
    | ok value =>
      rw [first, ok_bind] at fails
      cases later : rest.mapM step with
      | error fault =>
        rw [later] at fails
        cases fails
        obtain ⟨other, present, failed⟩ := ih later
        exact ⟨other, List.mem_cons_of_mem item present, failed⟩
      | ok values =>
        rw [later] at fails
        cases fails

/-- A step that does not depend on where an item was found. -/
theorem mapM_attach {items : List α} {step : { item // item ∈ items } → Except ε β}
    (plain : α → Except ε β) (same : ∀ item present, step ⟨item, present⟩ = plain item) :
    items.attach.mapM step = items.mapM plain := by
  rw [List.mapM_subtype same, List.unattach_attach]

/-- What every step of a run keeps, of the items it has gone through, the run keeps. -/
theorem foldlM_keeps {state : Type} {step : state → α → Except ε state}
    {holds : List α → state → Prop}
    (keeps : ∀ done now item next, holds done now → step now item = .ok next →
      holds (done ++ [item]) next) :
    ∀ items done now last, holds done now → items.foldlM step now = .ok last →
      holds (done ++ items) last := by
  intro items
  induction items with
  | nil =>
    intro done now last start ran
    cases ran
    rwa [List.append_nil]
  | cons item rest ih =>
    intro done now last start ran
    rw [List.foldlM_cons] at ran
    obtain ⟨next, stepped, ran⟩ := bind_eq_ok_iff.mp ran
    -- The item goes from those that are left to those that are done.
    have all := ih (done ++ [item]) next last (keeps done now item next start stepped) ran
    rwa [List.append_assoc] at all

/-! ## Two runs -/

/-- Two runs that fail with the same error, or succeed with values that are related. -/
inductive Lockstep (related : α → β → Prop) : Except ε α → Except ε β → Prop
  | error (error : ε) : Lockstep related (.error error) (.error error)
  | ok {one : α} {other : β} : related one other → Lockstep related (.ok one) (.ok other)

namespace Lockstep

variable {γ δ : Type} {related : α → β → Prop} {paired : γ → δ → Prop} {one : Except ε α}
  {other : Except ε β}

theorem bind {next : α → Except ε γ} {next' : β → Except ε δ} (first : Lockstep related one other)
    (later : ∀ value value', related value value' → Lockstep paired (next value) (next' value')) :
    Lockstep paired (one >>= next) (other >>= next') := by
  cases first with
  | error error => exact .error error
  | ok pair => exact later _ _ pair

theorem map {f : α → γ} {g : β → δ} (first : Lockstep related one other)
    (later : ∀ value value', related value value' → paired (f value) (g value')) :
    Lockstep paired (one.map f) (other.map g) := by
  cases first with
  | error error => exact .error error
  | ok pair => exact .ok (later _ _ pair)

/-- The two ways to go in lockstep. -/
theorem outcomes (runs : Lockstep related one other) :
    (∃ error, one = .error error ∧ other = .error error) ∨
      ∃ value value', one = .ok value ∧ other = .ok value' ∧ related value value' := by
  cases runs with
  | error error => exact .inl ⟨error, rfl, rfl⟩
  | ok pair => exact .inr ⟨_, _, rfl, rfl, pair⟩

theorem same {related : α → α → Prop} (reflexive : ∀ value, related value value)
    (outcome : Except ε α) : Lockstep related outcome outcome := by
  cases outcome with
  | error error => exact .error error
  | ok value => exact .ok (reflexive value)

/-- A step on the items of two lists, in order. -/
theorem mapM {step : α → Except ε γ} {step' : β → Except ε δ} {items : List α} {items' : List β}
    (pairs : List.Forall₂ (fun item item' => Lockstep paired (step item) (step' item')) items
      items') :
    Lockstep (List.Forall₂ paired) (items.mapM step) (items'.mapM step') := by
  induction pairs with
  | nil => exact .ok .nil
  | cons pair _ ih =>
    rw [List.mapM_cons, List.mapM_cons]
    refine pair.bind fun value value' first => ih.bind fun rest rest' others => ?_
    exact .ok (.cons first others)

/-- A run through two lists, each step of which keeps the states related. -/
theorem foldlM {step : γ → α → Except ε γ} {step' : δ → β → Except ε δ} {items : List α}
    {items' : List β} (pairs : List.Forall₂ related items items')
    (keeps : ∀ state state' item item', paired state state' → related item item' →
      Lockstep paired (step state item) (step' state' item')) :
    ∀ state state', paired state state' →
      Lockstep paired (items.foldlM step state) (items'.foldlM step' state') := by
  induction pairs with
  | nil =>
    intro state state' start
    exact .ok start
  | cons pair _ ih =>
    intro state state' start
    rw [List.foldlM_cons, List.foldlM_cons]
    exact (keeps _ _ _ _ start pair).bind ih

end Lockstep

end FluentSql
