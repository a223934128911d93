import FluentSql.Proofs.Sql.Predicate
import FluentSql.Proofs.Sql.Reading

/-!
# What fragments mean

A fragment means the same wherever it stands in a statement: its placeholders are numbered from
those before it, and so stand for its own values. An expression that is primary can be joined with
others without a change to what any of them says.

Results:
1. `Fragment.Means.append`, `Fragment.Means.joined`, `Fragment.Means.enclosed`: fragments one after
   the other, with words between them, and between words.
2. `Fragment.Means.reads`: such a fragment is read from one edge to another.
3. `Fragment.expresses_separated_and`, `Fragment.expresses_separated_or`: expressions that are joined.
-/

namespace FluentSql

open Sql

/-- Wherever a fragment stands among other values, it spells tokens of a kind, with a placeholder for
each of its own values, in order. -/
def Fragment.Means (before : Edge) (fragment : Fragment) (after : Edge)
    (kind : List Json → List Token → Prop) : Prop :=
  ∀ earlier later, ∃ tokens,
    Spells before (Fragment.sqlFrom earlier.length fragment).toList tokens after ∧
      placeholders tokens = List.range' (earlier.length + 1) fragment.params.length ∧
      kind (earlier ++ (fragment.params ++ later)) tokens

namespace Fragment

variable {before middle after : Edge} {first second fragment : Fragment}
  {kind one other : List Json → List Token → Prop}

theorem Means.append (left : Means before first middle one) (right : Means middle second after other)
    (joins : ∀ values tokens tokens', one values tokens → other values tokens' →
      kind values (tokens ++ tokens')) :
    Means before (first ++ second) after kind := by
  intro earlier later
  obtain ⟨tokens, spelled, numbered, meant⟩ := left earlier (second.params ++ later)
  obtain ⟨tokens', spelled', numbered', meant'⟩ := right (earlier ++ first.params) later
  refine ⟨tokens ++ tokens', ?_, ?_, ?_⟩
  · rw [sqlFrom_append, String.toList_append, ← List.length_append]
    exact spelled.append spelled'
  · rw [placeholders_append, numbered, numbered', params_append, List.length_append,
      List.length_append, ← List.range'_append_1, Nat.add_right_comm]
  · rw [params_append, List.append_assoc]
    refine joins _ _ _ meant ?_
    rwa [List.append_assoc] at meant'

theorem Means.imp (means : Means before fragment after one)
    (implies : ∀ values tokens, one values tokens → kind values tokens) :
    Means before fragment after kind := by
  intro earlier later
  obtain ⟨tokens, spelled, numbered, meant⟩ := means earlier later
  exact ⟨tokens, spelled, numbered, implies _ _ meant⟩

theorem Means.fromClear (means : Means .token fragment after kind) :
    Means .clear fragment after kind := by
  intro earlier later
  obtain ⟨tokens, spelled, rest⟩ := means earlier later
  exact ⟨tokens, spelled.fromClear, rest⟩

/-- A fragment that means something is read. -/
theorem Means.reads (means : Means before fragment after kind) :
    Fragment.Reads before fragment after := by
  intro count
  obtain ⟨tokens, spelled, numbered, -⟩ := means (List.replicate count .null) []
  rw [List.length_replicate] at spelled numbered
  rw [← numbered]
  exact .ofSpells spelled

/-- A text without placeholders. -/
theorem means_text {sql : String} {tokens : List Token} (spells : Spells before sql.toList tokens after)
    (unbound : placeholders tokens = []) :
    Means before (text sql) after fun _ found => found = tokens := by
  intro earlier later
  refine ⟨tokens, ?_, unbound, rfl⟩
  rw [sqlFrom_text]
  exact spells

/-- Fixed words. -/
theorem means_word {sql : String} (word : List Token)
    (spelling : isSpelling before sql.toList word after = true) :
    Means before (text sql) after fun _ tokens => tokens = word :=
  means_text (spells_of_isSpelling spelling).1 (spells_of_isSpelling spelling).2

theorem means_ident (name : Identifier) :
    Means .clear (ident name) .token fun _ tokens => tokens = [.name name] := by
  intro earlier later
  refine ⟨[.name name], ?_, rfl, rfl⟩
  rw [ident, sqlFrom_text]
  exact spells_name name

/-- A placeholder stands for the value that is bound with it. -/
theorem means_bound (value : Json) :
    Means .clear (bound value) .token fun values tokens =>
      ∃ number, tokens = [.placeholder number] ∧ boundTo values number = some value := by
  intro earlier later
  refine ⟨[.placeholder (earlier.length + 1)], ?_, rfl, earlier.length + 1, rfl, ?_⟩
  · rw [sqlFrom_bound]
    exact spells_placeholder (earlier.length + 1)
  · rw [boundTo, params_bound, List.getElem?_append_right (Nat.le_refl _), Nat.sub_self]
    rfl

/-- Two fragments with fixed words between them. -/
theorem Means.joined {separator : String} {word : List Token} (left : Means before first .token one)
    (spelling : isSpelling .token separator.toList word .clear = true)
    (right : Means .clear second after other)
    (joins : ∀ values tokens tokens', one values tokens → other values tokens' →
      kind values (tokens ++ (word ++ tokens'))) :
    Means before (first ++ text separator ++ second) after kind := by
  have words : Means .token (text separator) .clear fun _ tokens => tokens = word :=
    means_word word spelling
  have opened : Means before (first ++ text separator) .clear fun values tokens =>
      ∃ rest, tokens = rest ++ word ∧ one values rest :=
    left.append words fun values tokens tokens' meant same => ⟨tokens, by rw [same], meant⟩
  refine opened.append right ?_
  rintro values _ tokens' ⟨tokens, rfl, meant⟩ meant'
  rw [List.append_assoc]
  exact joins values tokens tokens' meant meant'

/-- A fragment between fixed words. -/
theorem Means.enclosed {opening closing : String} {opened closed : List Token}
    (spellsOpening : isSpelling before opening.toList opened .clear = true)
    (inner : Means .clear fragment .token one)
    (spellsClosing : isSpelling .token closing.toList closed .token = true)
    (joins : ∀ values tokens, one values tokens → kind values (opened ++ (tokens ++ closed))) :
    Means before (text opening ++ fragment ++ text closing) .token kind := by
  have words : Means before (text opening) .clear fun _ tokens => tokens = opened :=
    means_word opened spellsOpening
  have more : Means before (text opening ++ fragment) .token fun values tokens =>
      ∃ rest, tokens = opened ++ rest ∧ one values rest :=
    words.append inner fun values tokens tokens' same meant => ⟨tokens', by rw [same], meant⟩
  have last : Means .token (text closing) .token fun _ tokens => tokens = closed :=
    means_word closed spellsClosing
  refine more.append last ?_
  rintro values _ _ ⟨tokens, rfl, meant⟩ rfl
  rw [List.append_assoc]
  exact joins values tokens meant

/-- A list of placeholders stands for the list of values. -/
theorem means_boundList {values : List Json} (nonempty : values ≠ []) :
    Means .clear (boundList values) .token fun bound tokens => Lists bound tokens values := by
  induction values with
  | nil => exact absurd rfl nonempty
  | cons value rest ih =>
    have head := means_bound value
    cases rest with
    | nil =>
      rw [boundList, List.map_singleton, separated_singleton]
      refine head.imp ?_
      rintro values tokens ⟨number, rfl, bound⟩
      exact .one bound
    | cons second rest =>
      have tail := ih (by simp)
      rw [boundList, List.map_cons, List.map_cons, separated_cons_cons]
      have comma : isSpelling .token ", ".toList [.mark .comma] .clear = true := by decide
      refine head.joined comma tail ?_
      rintro values _ tokens ⟨number, rfl, bound⟩ later
      exact .more bound later

/-! ## Expressions -/

/-- A fragment that is spelled as an expression of a level, wherever it stands. -/
def Expresses (level : Precedence) (fragment : Fragment) (predicate : Predicate) : Prop :=
  Means .clear fragment .token fun values tokens => Parses values level tokens predicate

variable {predicate left right : Predicate}

theorem Expresses.conjunct (expresses : Expresses .primary fragment predicate) :
    Expresses .conjunction fragment predicate := expresses.imp fun _ _ parses => .conjunct parses

theorem Expresses.disjunct (expresses : Expresses .conjunction fragment predicate) :
    Expresses .disjunction fragment predicate := expresses.imp fun _ _ parses => .disjunct parses

theorem Expresses.and (before : Expresses .conjunction first left)
    (after : Expresses .primary second right) :
    Expresses .conjunction (first ++ text " AND " ++ second) (.and left right) := by
  have word : isSpelling .token " AND ".toList [andToken] .clear = true := by decide
  exact Means.joined before word after fun _ _ _ one other => .and one other

theorem Expresses.or (before : Expresses .disjunction first left)
    (after : Expresses .conjunction second right) :
    Expresses .disjunction (first ++ text " OR " ++ second) (.or left right) := by
  have word : isSpelling .token " OR ".toList [orToken] .clear = true := by decide
  exact Means.joined before word after fun _ _ _ one other => .or one other

theorem Expresses.group (inner : Expresses .disjunction fragment predicate) :
    Expresses .primary (text "(" ++ fragment ++ text ")") predicate := by
  have opening : isSpelling .clear "(".toList [.mark .opening] .clear = true := by decide
  have closing : isSpelling .token ")".toList [.mark .closing] .token = true := by decide
  exact Means.enclosed opening inner closing fun _ _ parses => .group parses

/-- A fragment that stands alone, with its own values. -/
theorem Expresses.alone (expresses : Expresses .primary fragment predicate) :
    ∃ tokens, tokenise (sql fragment) = some tokens ∧ SaysOnly fragment.params tokens predicate := by
  obtain ⟨tokens, spelled, -, parses⟩ := expresses [] []
  rw [List.nil_append, List.append_nil] at parses
  have whole : Parses fragment.params .disjunction tokens predicate := .disjunct (.conjunct parses)
  exact ⟨tokens, spelled.tokenise, whole.saysOnly⟩

/-- The first two of several fragments can be joined first. -/
theorem separated_regroup (separator : String) (first second : Fragment) (rest : List Fragment) :
    separated separator (first :: second :: rest) =
      separated separator ((first ++ text separator ++ second) :: rest) := by
  cases rest with
  | nil => simp
  | cons third rest => simp

/-- Expressions joined by `AND`, from left to right. -/
theorem expresses_separated_and {rest : List Fragment} {predicates : List Predicate}
    (head : Expresses .conjunction first left) (tail : List.Forall₂ (Expresses .primary) rest predicates) :
    Expresses .conjunction (separated " AND " (first :: rest)) (predicates.foldl .and left) := by
  induction tail generalizing first left with
  | nil => rwa [separated_singleton]
  | cons next _ ih =>
    rw [separated_regroup, List.foldl_cons]
    exact ih (head.and next)

/-- Expressions joined by `OR`, from left to right. -/
theorem expresses_separated_or {rest : List Fragment} {predicates : List Predicate}
    (head : Expresses .disjunction first left) (tail : List.Forall₂ (Expresses .primary) rest predicates) :
    Expresses .disjunction (separated " OR " (first :: rest)) (predicates.foldl .or left) := by
  induction tail generalizing first left with
  | nil => rwa [separated_singleton]
  | cons next _ ih =>
    rw [separated_regroup, List.foldl_cons]
    exact ih (head.or next.conjunct)

end Fragment

end FluentSql
