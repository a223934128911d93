import FluentSql.Proofs.Chain.Count

/-!
# Pages in words

The bounds of a page are given as words of 64 bits. A chain that was once given a bound which a server
does not accept has no plan, whatever bounds follow. In all other chains the number of rows of a range
can be worked out in words: no difference is below zero, and no sum is too great for a word.

Results:
1. `Word.exists_rowCount`: the number of rows of a range, in words.
2. `Chain.fails_of_outOfBounds`, `Chain.isOk_unpaged`: the bounds that a chain is refused for.
3. `Chain.page_exact`: the page at the end of the statement for rows.
-/

namespace FluentSql

/-! ## Words -/

namespace Word

/-- The difference of two words, unless it is below zero. -/
def sub? (a b : UInt64) : Option UInt64 := if b ≤ a then some (a - b) else none

/-- The sum of two words, unless it is too great for a word. -/
def add? (a b : UInt64) : Option UInt64 :=
  if a.toNat + b.toNat < UInt64.size then some (a + b) else none

theorem sub?_eq_some {a b : UInt64} (ordered : b.toNat ≤ a.toNat) :
    ∃ difference, sub? a b = some difference ∧ b.toNat + difference.toNat = a.toNat := by
  have words : b ≤ a := UInt64.le_iff_toNat_le.mpr ordered
  refine ⟨a - b, if_pos words, ?_⟩
  rw [UInt64.toNat_sub_of_le a b words, Nat.add_sub_cancel' ordered]

theorem add?_eq_some {a b : UInt64} (fits : a.toNat + b.toNat < UInt64.size) :
    ∃ sum, add? a b = some sum ∧ sum.toNat = a.toNat + b.toNat :=
  ⟨a + b, if_pos fits, (UInt64.toNat_add a b).trans (Nat.mod_eq_of_lt fits)⟩

/-- The rows from the first to the last, both of them counted, are as many as a word can tell. -/
theorem exists_rowCount {first last : Nat} (ordered : first ≤ last)
    (bounded : last < Nat.pow 2 63 - 1) :
    ∃ difference count, sub? (.ofNat last) (.ofNat first) = some difference ∧
      add? difference 1 = some count ∧ first + count.toNat = last + 1 := by
  have small : last + 1 < UInt64.size := Nat.lt_of_lt_of_le (Nat.add_lt_of_lt_sub bounded) (by decide)
  have ends : (UInt64.ofNat last).toNat = last := UInt64.toNat_ofNat_of_lt' (by omega)
  have begins : (UInt64.ofNat first).toNat = first := UInt64.toNat_ofNat_of_lt' (by omega)
  obtain ⟨difference, subtracted, distance⟩ :=
    sub?_eq_some (a := .ofNat last) (b := .ofNat first) (by omega)
  rw [begins, ends] at distance
  have one : (1 : UInt64).toNat = 1 := rfl
  obtain ⟨count, added, sum⟩ := add?_eq_some (a := difference) (b := 1) (by omega)
  exact ⟨difference, count, subtracted, added, by omega⟩

end Word

/-! ## Bounds -/

/-- A call gives a bound that a server does not accept, or a range that ends before it begins. -/
def Call.OutOfBounds : Call → Prop
  | .limit count => Nat.pow 2 63 - 1 < count
  | .range first last => last < first ∨ Nat.pow 2 63 - 1 ≤ last
  | _ => False

/-- The text of a page: of the range, if there is one, and else of the limit. The number of rows of a
range is worked out in words. -/
inductive PageText : Option (Nat × Nat) → Option Nat → String → Prop
  | range {first last : Nat} {limit : Option Nat} {difference count : UInt64}
      (subtracted : Word.sub? (.ofNat last) (.ofNat first) = some difference)
      (added : Word.add? difference 1 = some count)
      (rows : first + count.toNat = last + 1)
      (bounded : first + count.toNat ≤ Nat.pow 2 63 - 1) :
      PageText (some (first, last)) limit
        (" LIMIT " ++ natText count.toNat ++ " OFFSET " ++ natText first)
  | limit {count : Nat} (bounded : count ≤ Nat.pow 2 63 - 1) :
      PageText none (some count) (" LIMIT " ++ natText count)
  | all : PageText none none ""

namespace Draft

variable {draft : Draft} {call : Call} {kind : CallKind}

/-- A draft takes a bound just when it is not out of bounds. -/
theorem isOk_call_iff (bounds : call.kind = .limit ∨ call.kind = .range) (draft : Draft) :
    (draft.call call).isOk = true ↔ ¬ call.OutOfBounds := by
  cases call with
  | limit count =>
    rw [Draft.call, setLimit, Call.OutOfBounds]
    split
    · rename_i great
      exact iff_of_false Bool.false_ne_true fun allowed => allowed great
    · rename_i small
      exact iff_of_true rfl small
  | range first last =>
    rw [Draft.call, setRange, Call.OutOfBounds]
    split
    · rename_i reversed
      exact iff_of_false Bool.false_ne_true fun allowed => allowed (.inl reversed)
    · rename_i ordered
      split
      · rename_i great
        exact iff_of_false Bool.false_ne_true fun allowed => allowed (.inr great)
      · rename_i small
        exact iff_of_true rfl (not_or.mpr ⟨ordered, small⟩)
  | _ => rcases bounds with wrong | wrong <;> cases wrong

/-! ## What a page has no part in -/

theorem isOk_selectClause (table : Identifier) (selection : Selection) (condition : Fragment)
    (keys : List OrderKey) (range : Option (Nat × Nat)) (limit : Option Nat) :
    (selectClause table selection condition keys range limit).result.isOk =
      (orderClause table keys).result.isOk := by
  have paged : ∃ page, (pageClause range limit).result = .ok page := by
    unfold pageClause
    split <;> exact ⟨_, rfl⟩
  obtain ⟨page, paged⟩ := paged
  rw [selectClause, Clause.result_append, Clause.result_append, paged]
  cases (orderClause table keys).result <;> rfl

theorem isOk_map {α β : Type} (outcome : Except Error α) (f : α → β) :
    (outcome.map f).isOk = outcome.isOk := by
  cases outcome <;> rfl

/-- Whether a draft has a statement does not depend on its page. -/
theorem isOk_statement_taking (paging : kind = .limit ∨ kind = .range) (source : Draft)
    (table : Identifier) (selection : Selection) (condition : Fragment) :
    ((draft.taking kind source).statement table selection condition).isOk =
      (draft.statement table selection condition).isOk := by
  rcases draft with ⟨name, action, columns, filters, order, limit, range, demand, target⟩
  cases action with
  | undecided =>
    rcases paging with rfl | rfl <;>
      simp only [statement, taking, isOk_map, isOk_selectClause]
  | select options =>
    rcases paging with rfl | rfl <;> cases head : options.headOnly <;>
      simp [statement, taking, isOk_map, isOk_selectClause, head]
  | _ => rcases paging with rfl | rfl <;> rfl

/-- Nor does it depend on its page whether a draft has a plan. -/
theorem isOk_plan_taking (paging : kind = .limit ∨ kind = .range) (source : Draft) :
    (draft.taking kind source).plan.isOk = draft.plan.isOk := by
  have same : ∀ table selection condition,
      ((draft.taking kind source).statement table selection condition).isOk =
        (draft.statement table selection condition).isOk := isOk_statement_taking paging source
  have unread : (draft.taking kind source).table = draft.table ∧
      (draft.taking kind source).columns = draft.columns ∧
      (draft.taking kind source).filters = draft.filters := by
    rcases paging with rfl | rfl <;> exact ⟨rfl, rfl, rfl⟩
  obtain ⟨named, selected, filtered⟩ := unread
  rw [Draft.plan, Draft.plan, named, selected, filtered]
  cases Identifier.ofName draft.table with
  | error error => rfl
  | ok table =>
    rw [ok_bind, ok_bind]
    cases Selection.parse (draft.columns.getD "*") with
    | error error => rfl
    | ok selection =>
      rw [ok_bind, ok_bind]
      cases (Filter.whereClause table.name draft.filters).result with
      | error error => rfl
      | ok condition =>
        rw [ok_bind, ok_bind]
        have stated := same table selection condition
        cases one : (draft.taking kind source).statement table selection condition <;>
          cases two : draft.statement table selection condition <;> rw [one, two] at stated <;>
          first | rfl | cases stated

end Draft

/-! ## Chains -/

namespace Chain

variable {chain : Chain} {call : Call}

/-- A chain with a bound that no server accepts has no plan, whatever follows it. -/
theorem fails_of_outOfBounds (listed : call ∈ chain.calls) (out : call.OutOfBounds) :
    ∃ error, chain.plan = .error error := by
  have bounds : call.kind = .limit ∨ call.kind = .range := by
    cases call with
    | limit => exact .inl rfl
    | range => exact .inr rfl
    | _ => cases out
  cases planned : chain.plan with
  | error error => exact ⟨error, rfl⟩
  | ok plan =>
    obtain ⟨draft, drafted, -⟩ := Chain.plan_eq_ok planned
    have apart : call.kind ≠ .operation := by rcases bounds with same | same <;> rw [same] <;> nofun
    have taken := Draft.isOk_of_ofChain drafted listed apart draft
    exact absurd out ((Draft.isOk_call_iff bounds draft).mp taken)

/-- Bounds in their range are no reason to refuse a chain. -/
theorem isOk_without_page {kind : CallKind} (paging : kind = .limit ∨ kind = .range)
    (inBounds : ∀ call ∈ chain.calls, ¬ call.OutOfBounds) :
    (chain.without kind).plan.isOk = chain.plan.isOk := by
  have taken : ∀ call ∈ chain.calls, call.kind = kind →
      ∀ now : Draft, (now.call call).isOk = true := fun call listed own now =>
    (Draft.isOk_call_iff (own ▸ paging) now).mpr (inBounds call listed)
  rw [Chain.plan, Chain.plan, Draft.ofChain_without taken]
  cases Draft.ofChain chain with
  | error error => rfl
  | ok draft => exact Draft.isOk_plan_taking paging _

theorem isOk_unpaged (inBounds : ∀ call ∈ chain.calls, ¬ call.OutOfBounds) :
    chain.unpaged.plan.isOk = chain.plan.isOk := by
  rw [unpaged, isOk_without_page (.inr rfl), isOk_without_page (.inl rfl) inBounds]
  exact fun call listed => inBounds call (List.mem_of_mem_filter listed)

theorem range_inBounds (inBounds : ∀ call ∈ chain.calls, ¬ call.OutOfBounds) {first last : Nat}
    (asked : chain.range? = some (first, last)) : first ≤ last ∧ last < Nat.pow 2 63 - 1 := by
  obtain ⟨call, listed, given⟩ := List.mem_filterMap.mp (List.mem_of_getLast? asked)
  cases call with
  | range =>
    cases given
    obtain ⟨ordered, small⟩ := not_or.mp (inBounds _ listed)
    exact ⟨Nat.le_of_not_lt ordered, Nat.lt_of_not_le small⟩
  | _ => cases given

theorem limit_inBounds (inBounds : ∀ call ∈ chain.calls, ¬ call.OutOfBounds) {count : Nat}
    (asked : chain.limit? = some count) : count ≤ Nat.pow 2 63 - 1 := by
  obtain ⟨call, listed, given⟩ := List.mem_filterMap.mp (List.mem_of_getLast? asked)
  cases call with
  | limit =>
    cases given
    exact Nat.le_of_not_lt (inBounds _ listed)
  | _ => cases given

/-- The page of a chain with bounds in their range, worked out in words, is the page it is given. -/
theorem exists_pageText (inBounds : ∀ call ∈ chain.calls, ¬ call.OutOfBounds) :
    ∃ page, PageText chain.range? chain.limit? page ∧
      ∀ bounds, (pageClause chain.range? chain.limit?).result = .ok bounds →
        Fragment.sql bounds = page := by
  cases asked : chain.range? with
  | some range =>
    obtain ⟨first, last⟩ := range
    obtain ⟨ordered, small⟩ := range_inBounds inBounds asked
    obtain ⟨difference, count, subtracted, added, rows⟩ := Word.exists_rowCount ordered small
    refine ⟨_, .range subtracted added rows (by omega), ?_⟩
    have same : last - first + 1 = count.toNat := by omega
    rintro _ ⟨⟩
    rw [← same]
    exact Fragment.sqlFrom_text 0 _
  | none =>
    cases limited : chain.limit? with
    | some count =>
      refine ⟨_, .limit (limit_inBounds inBounds limited), ?_⟩
      rintro _ ⟨⟩
      exact Fragment.sqlFrom_text 0 _
    | none =>
      refine ⟨_, .all, ?_⟩
      rintro _ ⟨⟩
      rfl

/-- The main result. A chain that was given a bound out of range has no plan. In any other chain the
page can be worked out in words, is no reason to refuse the chain, and comes last in the statement for
rows, after the columns, the condition and the order. -/
theorem page_exact (chain : Chain) :
    ((∃ call ∈ chain.calls, call.OutOfBounds) → ∃ error, chain.plan = .error error) ∧
    ((∀ call ∈ chain.calls, ¬ call.OutOfBounds) →
      chain.plan.isOk = chain.unpaged.plan.isOk ∧
      ∃ page, PageText chain.range? chain.limit? page ∧
        ∀ plan, chain.plan = .ok plan → plan.operation = .select →
          chain.extras.headOnly = false →
          ∃ rows condition order bounds, plan.statement = some rows ∧
            chain.Selects plan condition order bounds ∧
            Fragment.sql rows = "SELECT " ++ plan.selection.columnListSql plan.table ++ " FROM " ++
              plan.table.sql ++ Fragment.sql condition ++ Fragment.sql order ++ page) := by
  constructor
  · rintro ⟨call, listed, out⟩
    exact fails_of_outOfBounds listed out
  · intro inBounds
    obtain ⟨page, worked, written⟩ := exists_pageText inBounds
    refine ⟨(isOk_unpaged inBounds).symm, page, worked, ?_⟩
    intro plan planned selects shown
    obtain ⟨condition, order, bounds, parts, stated⟩ := selects_of_plan planned selects shown
    refine ⟨_, condition, order, bounds, stated, parts, ?_⟩
    rw [(sql_rows parts _).1, written bounds parts.page, rowsHead]

end Chain

namespace Readings

/-- The second ten readings of a station: the later range counts, and the limit does not. -/
def secondTen : Chain :=
  ⟨"readings", [.range 0 9, .filter (.compare .eq "station" (.int 7)), .limit 3,
    .order ⟨"taken", true, none⟩, .range 10 19]⟩

/-- A range that ends before it begins, and one that could be answered. -/
def reversed : Chain := ⟨"readings", [.range 5 4, .one, .range 0 9]⟩

theorem secondTen_inBounds : ∀ call ∈ secondTen.calls, ¬ call.OutOfBounds := by
  simp [secondTen, Call.OutOfBounds]

theorem paged_or_refused :
    (∃ error, reversed.plan = .error error) ∧
      ∃ plan page rows before, secondTen.plan = .ok plan ∧
        PageText secondTen.range? secondTen.limit? page ∧ plan.statement = some rows ∧
        Fragment.sql rows = before ++ page ∧ secondTen.range? = some (10, 19) := by
  refine ⟨(Chain.page_exact reversed).1 ⟨.range 5 4, List.mem_cons_self, .inl (by decide)⟩, ?_⟩
  obtain ⟨-, page, worked, ends⟩ := (Chain.page_exact secondTen).2 secondTen_inBounds
  have checked : secondTen.plan.isOk = true ∧
      secondTen.plan.toOption.map Plan.operation = some .select := by decide +kernel
  obtain ⟨accepted, selects⟩ := checked
  cases planned : secondTen.plan with
  | error error =>
    rw [planned] at accepted
    cases accepted
  | ok plan =>
    rw [planned] at selects
    obtain ⟨rows, condition, order, bounds, stated, -, text⟩ :=
      ends plan planned (Option.some.inj selects) rfl
    exact ⟨plan, page, rows, _, rfl, worked, stated, text, rfl⟩

end Readings

end FluentSql
