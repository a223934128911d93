import FluentSql.Proofs.Chain.Plan
import FluentSql.Proofs.Run.Keeps
import FluentSql.Proofs.Sql.Statements

/-!
# What a client is asked

Every statement of a plan, and every statement that is sent to resolve its embeds, is made of
reserved words and signs, marks, quoted simple names, numbers and placeholders, whatever strings and
values the calls of the chain were given. The placeholders are numbered from one in order, one for
each bound value.
-/

namespace FluentSql

open Sql

/-- A statement that nothing but tokens is in, with a placeholder for each value. -/
structure WellFormed (sql : String) (params : List Json) : Prop where
  /-- The whole text is read as tokens; the placeholders are numbered from one, in order. -/
  tokens : ∃ tokens, tokenise sql = some tokens ∧
    placeholders tokens = List.range' 1 params.length
  /-- No quote of a literal, no semicolon, no beginning of a comment and no escape. -/
  foreign : ∀ c ∈ ['\'', ';', '-', '/', '\\'], c ∉ sql.toList
  /-- A server expects as many values as are bound. -/
  expected : placeholderCount (jsonRowsSql sql).toList = params.length

/-- The wrapping of a statement has no placeholders. -/
theorem placeholderCount_jsonRowsSql (sql : String) :
    placeholderCount (jsonRowsSql sql).toList = placeholderCount sql.toList := by
  have ending : placeholderCount ") SELECT row_to_json(q) FROM q".toList = 0 := by decide
  have beginning : ∀ text, placeholderCount ("WITH q AS (".toList ++ text) = placeholderCount text := by
    intro text
    simp [placeholderCount]
  have apart : ∀ c ∈ ") SELECT row_to_json(q) FROM q".toList.head?, c.isDigit = false := by
    rintro _ ⟨⟩
    rfl
  rw [jsonRowsSql, String.toList_append, String.toList_append, List.append_assoc, beginning,
    placeholderCount_append apart, ending, Nat.max_zero]

/-- A fragment that is read from nothing is well-formed. -/
theorem Fragment.Reads.wellFormed {fragment : Fragment} {after : Edge}
    (reads : Fragment.Reads .clear fragment after) :
    WellFormed (Fragment.sql fragment) (Fragment.params fragment) := by
  obtain ⟨tokens, read, numbered⟩ := reads.exists_tokens
  refine ⟨⟨tokens, read, numbered⟩, ?_, ?_⟩
  · intro c listed present
    have allowed := isSqlChar_of_tokenise read c present
    have refused : ['\'', ';', '-', '/', '\\'].all (!isSqlChar ·) = true := by decide
    have other := List.all_eq_true.mp refused c listed
    rw [allowed] at other
    cases other
  · rw [placeholderCount_jsonRowsSql, placeholderCount_of_tokenise read, numbered, greatest_range']

/-! ## Plans -/

namespace Plan

variable {draft : Draft} {plan : Plan}

theorem statement_wellFormed (planned : draft.plan = .ok plan)
    (plain : plan.selection.isPlain = true) :
    ∀ fragment ∈ plan.statement, WellFormed (Fragment.sql fragment) (Fragment.params fragment) := by
  obtain ⟨table, selection, condition, statement, -, -, filtered, written, rfl⟩ :=
    Draft.plan_eq_ok planned
  rintro fragment rfl
  have reads := Filter.reads_whereClause table.name draft.filters condition filtered
  exact (Draft.reads_statement plain reads written).wellFormed

theorem countStatement_wellFormed (planned : draft.plan = .ok plan) :
    ∀ fragment ∈ plan.countStatement,
      WellFormed (Fragment.sql fragment) (Fragment.params fragment) := by
  obtain ⟨table, selection, condition, statement, -, -, filtered, written, rfl⟩ :=
    Draft.plan_eq_ok planned
  intro fragment counts
  have reads := Filter.reads_whereClause table.name draft.filters condition filtered
  exact (Draft.reads_countStatement reads counts).wellFormed

end Plan

/-! ## Embeds -/

/-- Every request that a recording client has received is well-formed. -/
def AllWellFormed {σ : Type} (session : Session (σ × List Request)) : Prop :=
  ∀ request ∈ session.client.2, WellFormed request.sql request.params

theorem arePlain_eq_true_iff {embeds : List Embed} :
    arePlain embeds = true ↔ ∀ embed ∈ embeds, embed.isPlain = true := by
  induction embeds with
  | nil => simp [arePlain]
  | cons embed rest ih => simp [arePlain, ih]

/-- Resolving plain embeds asks only well-formed statements of a client. -/
theorem conserves_allWellFormed {σ : Type} (client : Client σ) (settings : Settings) :
    Conserves AllWellFormed ⟨client.recording, settings⟩ (·.isPlain = true) where
  logs := fun _ _ holds => holds
  sends := by
    intro embed plain column value ending fragment known written session holds request present
    have ends : Sql.Reads .token ending.toList [] .token := by
      rcases known with rfl | rfl
      · exact Sql.Reads.nil
      · exact reads_of_isPhrase (by decide)
    have wellFormed := (Embed.reads_statement plain ends written).wellFormed
    -- The recording client has received what it had received before, and this request.
    rcases List.mem_append.mp present with earlier | this
    · exact holds request earlier
    · rw [List.mem_singleton.mp this]
      exact wellFormed
  inner := by
    intro embed plain nested present
    cases embed
    simp only [Embed.isPlain, Bool.and_eq_true, arePlain_eq_true_iff] at plain
    exact plain.2 nested present

/-- The main result: a plan whose select list has only plain columns, at every depth, has
well-formed statements, and whatever client resolves its embeds, in whatever rows and under whatever
settings, is asked only well-formed statements. -/
theorem statements_wellFormed {chain : Chain} {plan : Plan} (planned : chain.plan = .ok plan)
    (plain : plan.selection.isPlain = true) :
    (∀ fragment ∈ plan.statement,
      WellFormed (Fragment.sql fragment) (Fragment.params fragment)) ∧
    (∀ fragment ∈ plan.countStatement,
      WellFormed (Fragment.sql fragment) (Fragment.params fragment)) ∧
    ∀ {σ : Type} (client : Client σ) (settings : Settings) (base : String) (rows : List Row)
      (state : σ) (events : List Event),
      AllWellFormed
        (Runner.resolveRows ⟨client.recording, settings⟩ plan.selection.embeds base rows
          ⟨(state, []), events⟩).2 := by
  obtain ⟨draft, -, planned⟩ := Chain.plan_eq_ok planned
  refine ⟨Plan.statement_wellFormed planned plain, Plan.countStatement_wellFormed planned, ?_⟩
  intro σ client settings base rows state events
  have embeds : ∀ embed ∈ plan.selection.embeds, embed.isPlain = true := by
    rw [Selection.isPlain, Bool.and_eq_true, arePlain_eq_true_iff] at plain
    exact plain.2
  refine (conserves_allWellFormed client settings).resolveRows _ embeds base rows _ ?_
  intro request present
  cases present

/-- A chain whose values would end the statement if they were written in it. -/
def quotingChain : Chain :=
  { table := "listings"
    calls :=
      [.select "id, name, seller!owner_id(id, tags(*))" ⟨true, false⟩,
       .filter (.compare .eq "name" (.string "'; DROP TABLE listings; --")),
       .filter (.any "city.eq.\"x') OR 1=1 --\",and(size.gt.3,state.in.(a,\"b,$9\"))"),
       .order ⟨"name", true, some false⟩,
       .range 10 19] }

theorem quotingChain_wellFormed :
    ∃ plan statement count, quotingChain.plan = .ok plan ∧ plan.selection.isPlain = true ∧
      plan.statement = some statement ∧ plan.countStatement = some count ∧
      WellFormed (Fragment.sql statement) (Fragment.params statement) ∧
      WellFormed (Fragment.sql count) (Fragment.params count) ∧
      ∀ {σ : Type} (client : Client σ) (rows : List Row) (state : σ),
        AllWellFormed
          (Runner.resolveRows ⟨client.recording, .default⟩ plan.selection.embeds "listings" rows
            ⟨(state, []), []⟩).2 := by
  have checked : (match quotingChain.plan with
      | .ok plan => plan.selection.isPlain && plan.statement.isSome && plan.countStatement.isSome
      | .error _ => false) = true := by
    decide +kernel
  cases planned : quotingChain.plan with
  | error error => simp [planned] at checked
  | ok plan =>
    simp only [planned, Bool.and_eq_true, Option.isSome_iff_exists] at checked
    obtain ⟨⟨plain, statement, written⟩, count, counted⟩ := checked
    obtain ⟨sent, counts, probes⟩ := statements_wellFormed planned plain
    exact ⟨plan, statement, count, rfl, plain, written, counted, sent statement written,
      counts count counted, fun client rows state => probes client .default _ rows state []⟩

end FluentSql
