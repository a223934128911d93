import FluentSql.Proofs.Chain.Plan

/-!
# Kinds of calls

Every call is about one of seven things, and a draft keeps what was said about each of them in a
place of its own. A call looks at its own place only, and leaves the others as they are.

Results:
1. `Draft.call_taking`: what a draft says about other things makes no difference to a call.
2. `Draft.eq_taking_of_call`: a call makes no difference to what a draft says about other things.
3. `Draft.ofChain_without`: without its calls of a kind, a chain comes to the same draft but for
   what that says about the kind.
4. `Draft.last_ofChain`, `Draft.all_ofChain`: where a call replaces what was said before, the last one
   counts, and where it adds to that, all of them count.
-/

namespace FluentSql

/-- What a call is about. -/
inductive CallKind where
  /-- What is done: a select or a write. -/
  | operation
  | filter
  | order
  | limit
  | range
  /-- How many rows are expected. -/
  | demand
  | conflict
deriving DecidableEq, Repr

/-- What a call is about. -/
def Call.kind : Call → CallKind
  | .select .. | .insert _ | .update _ | .upsert _ | .delete => .operation
  | .filter _ | .matching _ => .filter
  | .order _ => .order
  | .limit _ => .limit
  | .range .. => .range
  | .one | .atMostOne => .demand
  | .onConflict _ => .conflict

namespace Draft

/-- The draft with what another draft says about a kind. -/
def taking (draft : Draft) (kind : CallKind) (source : Draft) : Draft :=
  match kind with
  | .operation => { draft with action := source.action, columns := source.columns }
  | .filter => { draft with filters := source.filters }
  | .order => { draft with order := source.order }
  | .limit => { draft with limit := source.limit }
  | .range => { draft with range := source.range }
  | .demand => { draft with demand := source.demand }
  | .conflict => { draft with conflictTarget := source.conflictTarget }

variable {draft next : Draft} {call : Call} {kind other : CallKind}

theorem taking_taking (draft source source' : Draft) (kind : CallKind) :
    (draft.taking kind source).taking kind source' = draft.taking kind source' := by
  cases kind <;> rfl

theorem taking_comm (apart : kind ≠ other) (draft source source' : Draft) :
    (draft.taking kind source).taking other source' =
      (draft.taking other source').taking kind source := by
  cases kind <;> cases other <;> first | rfl | exact absurd rfl apart

/-! ## A call looks at its own kind only -/

theorem write_taking (apart : kind ≠ .operation) (draft source : Draft) (operation : Operation)
    (action : Except Error Action) :
    (draft.taking kind source).write operation action =
      (draft.write operation action).map (·.taking kind source) := by
  rcases draft with ⟨table, existing, columns, filters, order, limit, range, demand, target⟩
  cases kind with
  | operation => exact absurd rfl apart
  | _ => cases existing <;> cases action <;> rfl

theorem select_taking (apart : kind ≠ .operation) (draft source : Draft) (columns : String)
    (options : SelectExtras) :
    (draft.taking kind source).select columns options =
      (draft.select columns options).map (·.taking kind source) := by
  rcases draft with ⟨table, existing, _, filters, order, limit, range, demand, target⟩
  cases kind with
  | operation => exact absurd rfl apart
  | _ =>
    cases existing with
    | undecided | select => rfl
    | _ => by_cases default : options = .default <;> simp [select, taking, default]

theorem setLimit_taking (apart : kind ≠ .limit) (draft source : Draft) (count : Nat) :
    (draft.taking kind source).setLimit count = (draft.setLimit count).map (·.taking kind source) := by
  rw [setLimit, setLimit]
  split
  · rfl
  · cases kind with
    | limit => exact absurd rfl apart
    | _ => rfl

theorem setRange_taking (apart : kind ≠ .range) (draft source : Draft) (first last : Nat) :
    (draft.taking kind source).setRange first last =
      (draft.setRange first last).map (·.taking kind source) := by
  rw [setRange, setRange]
  split
  · rfl
  · split
    · rfl
    · cases kind with
      | range => exact absurd rfl apart
      | _ => rfl

/-- What a draft says about other kinds makes no difference to a call. -/
theorem call_taking (apart : kind ≠ call.kind) (draft source : Draft) :
    (draft.taking kind source).call call = (draft.call call).map (·.taking kind source) := by
  cases call with
  | select columns options => exact select_taking apart draft source columns options
  | insert | upsert | update | delete => exact write_taking apart draft source _ _
  | limit count => exact setLimit_taking apart draft source count
  | range first last => exact setRange_taking apart draft source first last
  | onConflict | filter | matching | order | one | atMostOne =>
    cases kind <;> first | rfl | exact absurd rfl apart

/-! ## A call changes its own kind only -/

/-- A call makes no difference to what a draft says about other kinds. -/
theorem eq_taking_of_call (called : draft.call call = .ok next) :
    next = draft.taking call.kind next := by
  cases call with
  | select columns options =>
    rw [Draft.call, select] at called
    split at called
    · cases called
      rfl
    · cases called
      rfl
    · split at called <;> cases called
      rfl
  | insert | upsert | update | delete =>
    obtain ⟨-, action, -, rfl⟩ := write_eq_ok called
    rfl
  | limit count =>
    rw [Draft.call, setLimit] at called
    split at called <;> cases called
    rfl
  | range first last =>
    rw [Draft.call, setRange] at called
    split at called
    · cases called
    · split at called <;> cases called
      rfl
  | onConflict | filter | matching | order | one | atMostOne =>
    cases called
    rfl

/-- After a call, a call of another kind finds what it would have found before. -/
theorem call_after {earlier later : Call} (called : draft.call earlier = .ok next)
    (apart : earlier.kind ≠ later.kind) :
    next.call later = (draft.call later).map (·.taking earlier.kind next) := by
  have found := call_taking apart draft next
  rwa [← eq_taking_of_call called] at found

/-- Whether a call is taken that neither selects nor writes does not depend on the draft. -/
theorem isOk_call (apart : call.kind ≠ .operation) (draft draft' : Draft) :
    (draft.call call).isOk = (draft'.call call).isOk := by
  cases call with
  | select | insert | upsert | update | delete => exact absurd rfl apart
  | limit count =>
    rw [Draft.call, Draft.call, setLimit, setLimit]
    split <;> rfl
  | range first last =>
    rw [Draft.call, Draft.call, setRange, setRange]
    split
    · rfl
    · split <;> rfl
  | onConflict | filter | matching | order | one | atMostOne => rfl

end Draft

/-! ## Chains without a kind of calls -/

/-- The chain without its calls of a kind. -/
def Chain.without (chain : Chain) (kind : CallKind) : Chain :=
  { chain with calls := chain.calls.filter (·.kind ≠ kind) }

namespace Draft

variable {draft next : Draft} {call : Call} {kind : CallKind} {chain : Chain}

/-- Every draft takes the calls of a chain that neither select nor write, if the chain has a draft. -/
theorem isOk_of_ofChain (drafted : ofChain chain = .ok draft) (listed : call ∈ chain.calls)
    (apart : call.kind ≠ .operation) (now : Draft) : (now.call call).isOk = true := by
  have keeps : ∀ (done : List Call) (reached : Draft) (call : Call) (next : Draft),
      (∀ taken ∈ done, taken.kind ≠ .operation → (now.call taken).isOk = true) →
      reached.call call = .ok next →
      ∀ taken ∈ done ++ [call], taken.kind ≠ .operation → (now.call taken).isOk = true := by
    intro done reached call next earlier called
    refine List.forall_mem_append.mpr ⟨earlier, List.forall_mem_singleton.mpr fun apart => ?_⟩
    rw [isOk_call apart now reached, called]
    rfl
  exact foldlM_keeps keeps chain.calls [] (new chain.table) draft nofun drafted call listed apart

/-- The run lemma: what the calls of a kind have said, or what the draft said before them, has no part
in the rest. -/
theorem foldlM_without (source : Draft) {calls : List Call}
    (taken : ∀ call ∈ calls, call.kind = kind → ∀ now : Draft, (now.call call).isOk = true)
    (draft : Draft) :
    (calls.filter (·.kind ≠ kind)).foldlM Draft.call (draft.taking kind source) =
      (calls.foldlM Draft.call draft).map (·.taking kind source) := by
  induction calls generalizing draft with
  | nil => rfl
  | cons call rest ih =>
    obtain ⟨first, others⟩ := List.forall_mem_cons.mp taken
    rw [List.foldlM_cons]
    by_cases own : call.kind = kind
    · rw [List.filter_cons_of_neg (by simpa using own)]
      have accepted := first own draft
      cases called : draft.call call with
      | error error =>
        rw [called] at accepted
        cases accepted
      | ok next =>
        rw [ok_bind, ← ih others, eq_taking_of_call called, own, taking_taking]
    · rw [List.filter_cons_of_pos (by simpa using own), List.foldlM_cons,
        call_taking (Ne.symm own)]
      cases draft.call call with
      | error error => rfl
      | ok next => exact ih others next

/-- Without its calls of a kind, a chain comes to the same draft but for what that says about the
kind, if these calls are taken by every draft. -/
theorem ofChain_without
    (taken : ∀ call ∈ chain.calls, call.kind = kind → ∀ now : Draft, (now.call call).isOk = true) :
    ofChain (chain.without kind) =
      (ofChain chain).map (·.taking kind (new chain.table)) := by
  have blank : (new chain.table).taking kind (new chain.table) = new chain.table := by
    cases kind <;> rfl
  rw [ofChain, ofChain, ← foldlM_without _ taken, blank]
  rfl

theorem ofChain_without_of_ok (drafted : ofChain chain = .ok draft) (apart : kind ≠ .operation) :
    ofChain (chain.without kind) = .ok (draft.taking kind (new chain.table)) := by
  rw [ofChain_without, drafted, map_ok]
  rintro call listed rfl now
  exact isOk_of_ofChain drafted listed apart now

end Draft

/-! ## What a chain says of some kinds -/

/-- The filters that a call adds. -/
def Call.filters : Call → List Filter
  | .filter given => [given]
  | .matching pairs => pairs.map fun (column, value) => .compare .eq column value
  | _ => []

/-- The sort keys that a call adds. -/
def Call.sortKeys : Call → List OrderKey
  | .order key => [key]
  | _ => []

/-- The row limit that a call sets. -/
def Call.limit? : Call → Option Nat
  | .limit count => some count
  | _ => none

/-- The range of rows that a call sets. -/
def Call.range? : Call → Option (Nat × Nat)
  | .range first last => some (first, last)
  | _ => none

namespace Chain

/-- All filters of a chain, in the order of its calls. -/
def filters (chain : Chain) : List Filter := chain.calls.flatMap Call.filters

/-- The last row limit of a chain. -/
def limit? (chain : Chain) : Option Nat := (chain.calls.filterMap Call.limit?).getLast?

/-- The last range of rows of a chain. -/
def range? (chain : Chain) : Option (Nat × Nat) := (chain.calls.filterMap Call.range?).getLast?

end Chain

namespace Draft

variable {draft next : Draft} {call : Call} {chain : Chain}

/-- The run lemma for what is said anew: the last call that says it counts. -/
theorem last_ofChain {α : Type} {said : Draft → Option α} {given : Call → Option α}
    (step : ∀ now call next, Draft.call now call = .ok next → said next = (given call).or (said now))
    (start : ∀ table, said (new table) = none) (drafted : ofChain chain = .ok draft) :
    said draft = (chain.calls.filterMap given).getLast? := by
  have keeps : ∀ done now call next, said now = (done.filterMap given).getLast? →
      Draft.call now call = .ok next → said next = ((done ++ [call]).filterMap given).getLast? := by
    intro done now call next earlier called
    rw [step now call next called, earlier, List.filterMap_append]
    cases new : given call with
    | none => rw [List.filterMap_cons_none new, List.filterMap_nil, List.append_nil, Option.none_or]
    | some value =>
      rw [List.filterMap_cons_some new, List.filterMap_nil, List.getLast?_concat, Option.some_or]
  exact foldlM_keeps keeps chain.calls [] (new chain.table) draft (start _) drafted

/-- The run lemma for what is added: all calls that say it count. -/
theorem all_ofChain {α : Type} {said : Draft → List α} {given : Call → List α}
    (step : ∀ now call next, Draft.call now call = .ok next → said next = said now ++ given call)
    (start : ∀ table, said (new table) = []) (drafted : ofChain chain = .ok draft) :
    said draft = chain.calls.flatMap given := by
  have keeps : ∀ done now call next, said now = done.flatMap given →
      Draft.call now call = .ok next → said next = (done ++ [call]).flatMap given := by
    intro done now call next earlier called
    rw [step now call next called, earlier, List.flatMap_append, List.flatMap_singleton]
  exact foldlM_keeps keeps chain.calls [] (new chain.table) draft (start _) drafted

theorem limit_call (called : draft.call call = .ok next) :
    next.limit = call.limit?.or draft.limit := by
  cases call with
  | limit count =>
    rw [Draft.call, setLimit] at called
    split at called <;> cases called
    rfl
  | _ =>
    rw [eq_taking_of_call called]
    rfl

theorem range_call (called : draft.call call = .ok next) :
    next.range = call.range?.or draft.range := by
  cases call with
  | range first last =>
    rw [Draft.call, setRange] at called
    split at called
    · cases called
    · split at called <;> cases called
      rfl
  | _ =>
    rw [eq_taking_of_call called]
    rfl

theorem filters_call (called : draft.call call = .ok next) :
    next.filters = draft.filters ++ call.filters := by
  cases call with
  | filter | matching =>
    cases called
    rfl
  | _ =>
    rw [eq_taking_of_call called]
    exact (List.append_nil _).symm

theorem order_call (called : draft.call call = .ok next) :
    next.order = draft.order ++ call.sortKeys := by
  cases call with
  | order =>
    cases called
    rfl
  | _ =>
    rw [eq_taking_of_call called]
    exact (List.append_nil _).symm

theorem limit_ofChain (drafted : ofChain chain = .ok draft) : draft.limit = chain.limit? :=
  last_ofChain (fun _ _ _ called => limit_call called) (fun _ => rfl) drafted

theorem range_ofChain (drafted : ofChain chain = .ok draft) : draft.range = chain.range? :=
  last_ofChain (fun _ _ _ called => range_call called) (fun _ => rfl) drafted

theorem filters_ofChain (drafted : ofChain chain = .ok draft) : draft.filters = chain.filters :=
  all_ofChain (fun _ _ _ called => filters_call called) (fun _ => rfl) drafted

theorem order_ofChain (drafted : ofChain chain = .ok draft) :
    draft.order = chain.calls.flatMap Call.sortKeys :=
  all_ofChain (fun _ _ _ called => order_call called) (fun _ => rfl) drafted

end Draft

end FluentSql
