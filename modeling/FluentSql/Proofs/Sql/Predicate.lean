import FluentSql.Condition.Basic
import FluentSql.Proofs.Sql.Token

/-!
# Boolean expressions

What may follow a `WHERE`, and what it says of a row. A test of a column binds tighter than `AND`,
and `AND` tighter than `OR`; both go from left to right, and parentheses group. Placeholders stand
for the values at their numbers. A comparison may be unknown, as with a null, so that expressions
have one of three values.

Results:
1. `run_parses`: a reader that looks at one token at a time follows every derivation.
2. `Parses.unique`: so the same tokens say one thing only.
3. `Predicate.value_joinedAnd_eq_true_iff`, `Predicate.value_joinedAnd_eq_false_iff`: the value of a
   conjunction.
-/

namespace FluentSql.Sql

/-! ## What expressions say -/

/-- What a boolean expression says of a row. -/
inductive Predicate where
  | never
  | test (column : ColumnRef) (test : Test)
  | and (left right : Predicate)
  | or (left right : Predicate)

/-- What is known of a row: whether its columns compare to values, if that is known, and what they
are. -/
structure Facts where
  compares : ColumnRef → Comparison → Json → Option Bool
  isA : ColumnRef → Truth → Bool

/-- Both of two truths; a falsehood decides. -/
def both : Option Bool → Option Bool → Option Bool
  | some false, _ => some false
  | _, some false => some false
  | some true, some true => some true
  | _, _ => none

/-- One of two truths; a truth decides. -/
def either : Option Bool → Option Bool → Option Bool
  | some true, _ => some true
  | _, some true => some true
  | some false, some false => some false
  | _, _ => none

/-- The value of a test: a column is among values when it equals one of them. -/
def testValue (facts : Facts) (column : ColumnRef) : Test → Option Bool
  | .compare comparison value => facts.compares column comparison value
  | .is truth => some (facts.isA column truth)
  | .among values => (values.map (facts.compares column .eq)).foldr either (some false)

namespace Predicate

/-- The value of an expression on a row. -/
def value (facts : Facts) : Predicate → Option Bool
  | never => some false
  | test column tested => testValue facts column tested
  | and left right => both (left.value facts) (right.value facts)
  | or left right => either (left.value facts) (right.value facts)

/-- Expressions joined from left to right. -/
def joined (join : Predicate → Predicate → Predicate) : List Predicate → Option Predicate
  | [] => none
  | first :: rest => some (rest.foldl join first)

variable {facts : Facts}

theorem both_eq_true_iff {one other : Option Bool} :
    both one other = some true ↔ one = some true ∧ other = some true := by
  rcases one with _ | _ | _ <;> rcases other with _ | _ | _ <;> simp [both]

theorem both_eq_false_iff {one other : Option Bool} :
    both one other = some false ↔ one = some false ∨ other = some false := by
  rcases one with _ | _ | _ <;> rcases other with _ | _ | _ <;> simp [both]

theorem value_foldl_and_eq_true_iff (first : Predicate) (rest : List Predicate) :
    (rest.foldl and first).value facts = some true ↔
      first.value facts = some true ∧ ∀ predicate ∈ rest, predicate.value facts = some true := by
  induction rest generalizing first with
  | nil => simp
  | cons next rest ih =>
    rw [List.foldl_cons, ih, List.forall_mem_cons, value, both_eq_true_iff, and_assoc]

theorem value_foldl_and_eq_false_iff (first : Predicate) (rest : List Predicate) :
    (rest.foldl and first).value facts = some false ↔
      first.value facts = some false ∨ ∃ predicate ∈ rest, predicate.value facts = some false := by
  induction rest generalizing first with
  | nil => simp
  | cons next rest ih =>
    rw [List.foldl_cons, ih, List.exists_mem_cons_iff, value, both_eq_false_iff, or_assoc]

variable {predicates : List Predicate} {whole : Predicate}

/-- A conjunction is true when all its parts are. -/
theorem value_joinedAnd_eq_true_iff (joins : joined and predicates = some whole) :
    whole.value facts = some true ↔ ∀ predicate ∈ predicates, predicate.value facts = some true := by
  cases predicates with
  | nil => cases joins
  | cons first rest =>
    cases joins
    rw [value_foldl_and_eq_true_iff, List.forall_mem_cons]

/-- It is false when one of its parts is, even if others are unknown. -/
theorem value_joinedAnd_eq_false_iff (joins : joined and predicates = some whole) :
    whole.value facts = some false ↔ ∃ predicate ∈ predicates, predicate.value facts = some false := by
  cases predicates with
  | nil => cases joins
  | cons first rest =>
    cases joins
    rw [value_foldl_and_eq_false_iff, List.exists_mem_cons_iff]

end Predicate

/-! ## How expressions are written -/

/-- A reserved word as a token. -/
def wordToken (word : String) (listed : word ∈ reservedWords) : Token := .reserved ⟨word, listed⟩

def whereToken : Token := wordToken "WHERE" (by decide)
def andToken : Token := wordToken "AND" (by decide)
def orToken : Token := wordToken "OR" (by decide)
def isToken : Token := wordToken "IS" (by decide)
def inToken : Token := wordToken "IN" (by decide)
def falseToken : Token := wordToken "false" (by decide)

/-- The operator of a comparison. -/
def comparisonToken (comparison : Comparison) : Token :=
  wordToken comparison.sql (by cases comparison <;> decide)

/-- The word after `IS`. -/
def truthToken : Truth → Token
  | .null => wordToken "NULL" (by decide)
  | .yes => wordToken "TRUE" (by decide)
  | .no => wordToken "FALSE" (by decide)

/-- The value that a placeholder stands for. -/
def boundTo (values : List Json) : Nat → Option Json
  | 0 => none
  | number + 1 => values[number]?

/-- Placeholders with commas between them, and their values. -/
inductive Lists (values : List Json) : List Token → List Json → Prop
  | one {number : Nat} {value : Json} (bound : boundTo values number = some value) :
      Lists values [.placeholder number] [value]
  | more {number : Nat} {value : Json} {tokens : List Token} {rest : List Json}
      (bound : boundTo values number = some value) (later : Lists values tokens rest) :
      Lists values (.placeholder number :: .mark .comma :: tokens) (value :: rest)

/-- What follows a column that is tested. -/
inductive Tests (values : List Json) : List Token → Test → Prop
  | compare {number : Nat} {value : Json} (comparison : Comparison)
      (bound : boundTo values number = some value) :
      Tests values [comparisonToken comparison, .placeholder number] (.compare comparison value)
  | is (truth : Truth) : Tests values [isToken, truthToken truth] (.is truth)
  | among {tokens : List Token} {listed : List Json} (lists : Lists values tokens listed) :
      Tests values ([inToken, .mark .opening] ++ (tokens ++ [.mark .closing])) (.among listed)

/-- How tightly the parts of an expression are bound. -/
inductive Precedence where
  | primary
  | conjunction
  | disjunction

/-- The grammar of expressions, with what they say. -/
inductive Parses (values : List Json) : Precedence → List Token → Predicate → Prop
  | never : Parses values .primary [falseToken] .never
  | test (column : ColumnRef) {tokens : List Token} {test : Test} (tests : Tests values tokens test) :
      Parses values .primary ([.name column.table, .mark .point, .name column.column] ++ tokens)
        (.test column test)
  | group {tokens : List Token} {predicate : Predicate}
      (inner : Parses values .disjunction tokens predicate) :
      Parses values .primary ([.mark .opening] ++ (tokens ++ [.mark .closing])) predicate
  | conjunct {tokens : List Token} {predicate : Predicate}
      (primary : Parses values .primary tokens predicate) :
      Parses values .conjunction tokens predicate
  | and {tokens later : List Token} {left right : Predicate}
      (before : Parses values .conjunction tokens left) (after : Parses values .primary later right) :
      Parses values .conjunction (tokens ++ (andToken :: later)) (.and left right)
  | disjunct {tokens : List Token} {predicate : Predicate}
      (conjunction : Parses values .conjunction tokens predicate) :
      Parses values .disjunction tokens predicate
  | or {tokens later : List Token} {left right : Predicate}
      (before : Parses values .disjunction tokens left)
      (after : Parses values .conjunction later right) :
      Parses values .disjunction (tokens ++ (orToken :: later)) (.or left right)

/-! ## A reader -/

/-- The comparison with an operator. -/
def comparison? (word : String) : Option Comparison :=
  [Comparison.eq, .neq, .gt, .gte, .lt, .lte, .like, .ilike].find? (·.sql = word)

/-- The truth after `IS`. -/
def truth? (word : String) : Option Truth :=
  [("NULL", Truth.null), ("TRUE", .yes), ("FALSE", .no)].lookup word

/-- What has been read of a primary expression. -/
inductive Focus where
  | start
  | table (table : Identifier)
  | point (table : Identifier)
  | column (column : ColumnRef)
  | comparison (column : ColumnRef) (comparison : Comparison)
  | truth (column : ColumnRef)
  | list (column : ColumnRef)
  /-- A value of the list must follow. -/
  | item (column : ColumnRef) (values : List Json)
  /-- A comma or the end of the list must follow. -/
  | items (column : ColumnRef) (values : List Json)
  | done (predicate : Predicate)

/-- The left operands that wait for what is being read. -/
structure Pending where
  disjunction : Option Predicate
  conjunction : Option Predicate

namespace Pending

/-- The conjunction that ends with an operand. -/
def conjoin (pending : Pending) (last : Predicate) : Predicate :=
  match pending.conjunction with
  | none => last
  | some left => .and left last

/-- The disjunction that ends with an operand. -/
def disjoin (pending : Pending) (last : Predicate) : Predicate :=
  match pending.disjunction with
  | none => pending.conjoin last
  | some left => .or left (pending.conjoin last)

end Pending

/-- A reader: where it stands, what waits there, and what waits outside the open parentheses. -/
structure Reader where
  focus : Focus
  pending : Pending
  outer : List Pending

namespace Reader

/-- The reader before an expression. -/
def initial : Reader := ⟨.start, ⟨none, none⟩, []⟩

/-- Takes a reserved word. -/
def takeWord (reader : Reader) (word : String) : Option Reader :=
  match reader.focus with
  | .start => if word = "false" then some { reader with focus := .done .never } else none
  | .column column =>
    if word = "IS" then some { reader with focus := .truth column }
    else if word = "IN" then some { reader with focus := .list column }
    else (comparison? word).map fun found => { reader with focus := .comparison column found }
  | .truth column =>
    (truth? word).map fun found => { reader with focus := .done (.test column (.is found)) }
  | .done last =>
    if word = "AND" then
      some ⟨.start, { reader.pending with conjunction := some (reader.pending.conjoin last) },
        reader.outer⟩
    else if word = "OR" then some ⟨.start, ⟨some (reader.pending.disjoin last), none⟩, reader.outer⟩
    else none
  | _ => none

/-- Takes a mark. -/
def takeMark (reader : Reader) : Mark → Option Reader
  | .point =>
    match reader.focus with
    | .table table => some { reader with focus := .point table }
    | _ => none
  | .opening =>
    match reader.focus with
    | .start => some ⟨.start, ⟨none, none⟩, reader.pending :: reader.outer⟩
    | .list column => some { reader with focus := .item column [] }
    | _ => none
  | .comma =>
    match reader.focus with
    | .items column values => some { reader with focus := .item column values }
    | _ => none
  | .closing =>
    match reader.focus, reader.outer with
    | .items column values, _ => some { reader with focus := .done (.test column (.among values)) }
    | .done last, pending :: outer => some ⟨.done (reader.pending.disjoin last), pending, outer⟩
    | _, _ => none
  | .star => none

/-- Takes a name. -/
def takeName (reader : Reader) (name : Identifier) : Option Reader :=
  match reader.focus with
  | .start => some { reader with focus := .table name }
  | .point table => some { reader with focus := .column ⟨table, name⟩ }
  | _ => none

/-- Takes the value of a placeholder. -/
def takeValue (reader : Reader) (value : Json) : Option Reader :=
  match reader.focus with
  | .comparison column comparison =>
    some { reader with focus := .done (.test column (.compare comparison value)) }
  | .item column values => some { reader with focus := .items column (values ++ [value]) }
  | _ => none

/-- Takes one token. -/
def step (values : List Json) (reader : Reader) : Token → Option Reader
  | .reserved word => reader.takeWord word.word
  | .mark mark => reader.takeMark mark
  | .name name => reader.takeName name
  | .placeholder number => (boundTo values number).bind reader.takeValue
  | .number _ => none

/-- Takes tokens, one after the other. -/
def run (values : List Json) (reader : Reader) (tokens : List Token) : Option Reader :=
  tokens.foldlM (step values) reader

/-- What has been read in the end, if nothing is left open. -/
def result (reader : Reader) : Option Predicate :=
  match reader.focus, reader.outer with
  | .done last, [] => some (reader.pending.disjoin last)
  | _, _ => none

variable {values : List Json} {reader next last : Reader} {tokens later : List Token}

theorem run_append (first : run values reader tokens = some next)
    (second : run values next later = some last) : run values reader (tokens ++ later) = some last := by
  rw [run, List.foldlM_append]
  rw [run] at first
  rw [first]
  exact second

theorem run_cons {token : Token} (first : step values reader token = some next)
    (second : run values next later = some last) : run values reader (token :: later) = some last := by
  rw [run, List.foldlM_cons, first]
  exact second

/-! ## The reader follows the grammar -/

variable {pending : Pending} {outer : List Pending} {column : ColumnRef}

theorem step_placeholder {number : Nat} {value : Json} (bound : boundTo values number = some value)
    (reader : Reader) : step values reader (.placeholder number) = reader.takeValue value := by
  rw [step, bound, Option.bind_some]

theorem step_comparison (comparison : Comparison) :
    step values ⟨.column column, pending, outer⟩ (comparisonToken comparison) =
      some ⟨.comparison column comparison, pending, outer⟩ := by
  cases comparison <;> rfl

theorem step_truth (truth : Truth) :
    step values ⟨.truth column, pending, outer⟩ (truthToken truth) =
      some ⟨.done (.test column (.is truth)), pending, outer⟩ := by
  cases truth <;> rfl

theorem run_lists {listed : List Json} (lists : Lists values tokens listed) (before : List Json) :
    run values ⟨.item column before, pending, outer⟩ tokens =
      some ⟨.items column (before ++ listed), pending, outer⟩ := by
  induction lists generalizing before with
  | one bound => exact run_cons (step_placeholder bound _) rfl
  | @more number value tokens rest bound _ ih =>
    refine run_cons (step_placeholder bound _) (run_cons rfl ?_)
    rw [ih, List.append_assoc, List.singleton_append]

theorem run_tests {test : Test} (tests : Tests values tokens test) :
    run values ⟨.column column, pending, outer⟩ tokens =
      some ⟨.done (.test column test), pending, outer⟩ := by
  cases tests with
  | compare comparison bound =>
    exact run_cons (step_comparison comparison) (run_cons (step_placeholder bound _) rfl)
  | is truth => exact run_cons rfl (run_cons (step_truth truth) rfl)
  | @among tokens listed lists =>
    have opened : run values ⟨.column column, pending, outer⟩ [inToken, .mark .opening] =
        some ⟨.item column [], pending, outer⟩ := rfl
    have closed : run values ⟨.items column listed, pending, outer⟩ [.mark .closing] =
        some ⟨.done (.test column (.among listed)), pending, outer⟩ := rfl
    exact run_append opened (run_append (run_lists lists []) closed)

/-- Where a reader stands after an expression of a level. -/
def Follows (values : List Json) (tokens : List Token) (predicate : Predicate) : Precedence → Prop
  | .primary => ∀ pending outer, run values ⟨.start, pending, outer⟩ tokens =
      some ⟨.done predicate, pending, outer⟩
  | .conjunction => ∀ disjunction outer, ∃ last conjunction,
      run values ⟨.start, ⟨disjunction, none⟩, outer⟩ tokens =
        some ⟨.done last, ⟨disjunction, conjunction⟩, outer⟩ ∧
      Pending.conjoin ⟨disjunction, conjunction⟩ last = predicate
  | .disjunction => ∀ outer, ∃ last pending,
      run values ⟨.start, ⟨none, none⟩, outer⟩ tokens = some ⟨.done last, pending, outer⟩ ∧
      Pending.disjoin pending last = predicate

/-- The reader follows every derivation. -/
theorem run_parses {level : Precedence} {predicate : Predicate}
    (parses : Parses values level tokens predicate) : Follows values tokens predicate level := by
  induction parses with
  | never => exact fun pending outer => rfl
  | test column tests =>
    intro pending outer
    exact run_cons rfl (run_cons rfl (run_cons rfl (run_tests tests)))
  | @group tokens predicate _ ih =>
    intro pending outer
    obtain ⟨last, inside, read, same⟩ := ih (pending :: outer)
    have opened : run values ⟨.start, pending, outer⟩ [.mark .opening] =
        some ⟨.start, ⟨none, none⟩, pending :: outer⟩ := rfl
    have closed : run values ⟨.done last, inside, pending :: outer⟩ [.mark .closing] =
        some ⟨.done predicate, pending, outer⟩ := by
      rw [← same]
      rfl
    exact run_append opened (run_append read closed)
  | conjunct _ ih =>
    intro disjunction outer
    exact ⟨_, none, ih ⟨disjunction, none⟩ outer, rfl⟩
  | @and tokens later left right _ _ before after =>
    intro disjunction outer
    obtain ⟨last, conjunction, read, same⟩ := before disjunction outer
    refine ⟨right, some left, run_append read (run_cons ?_ (after _ outer)), rfl⟩
    rw [← same]
    rfl
  | disjunct _ ih =>
    intro outer
    obtain ⟨last, conjunction, read, same⟩ := ih none outer
    exact ⟨last, _, read, same⟩
  | @or tokens later left right _ _ before after =>
    intro outer
    obtain ⟨last, pending, read, same⟩ := before outer
    obtain ⟨last', conjunction, read', same'⟩ := after (some left) outer
    refine ⟨last', ⟨some left, conjunction⟩, run_append read (run_cons ?_ read'), ?_⟩
    · rw [← same]
      rfl
    · rw [← same']
      rfl

end Reader

/-- Tokens say one thing only. -/
theorem Parses.unique {values : List Json} {tokens : List Token} {one other : Predicate}
    (first : Parses values .disjunction tokens one)
    (second : Parses values .disjunction tokens other) : one = other := by
  have result_eq : ∀ {predicate}, Parses values .disjunction tokens predicate →
      (Reader.run values .initial tokens).bind Reader.result = some predicate := by
    intro predicate parses
    obtain ⟨last, pending, read, same⟩ := Reader.run_parses parses []
    show (Reader.run values ⟨.start, ⟨none, none⟩, []⟩ tokens).bind Reader.result = _
    rw [read, ← same]
    rfl
  exact Option.some.inj ((result_eq first).symm.trans (result_eq second))

/-- Tokens that are an expression, which says this and nothing else. -/
def SaysOnly (values : List Json) (tokens : List Token) (predicate : Predicate) : Prop :=
  ∀ other, Parses values .disjunction tokens other ↔ other = predicate

theorem Parses.saysOnly {values : List Json} {tokens : List Token} {predicate : Predicate}
    (parses : Parses values .disjunction tokens predicate) : SaysOnly values tokens predicate := by
  intro other
  constructor
  · exact fun also => also.unique parses
  · rintro rfl
    exact parses

end FluentSql.Sql
