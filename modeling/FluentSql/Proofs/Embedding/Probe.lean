import FluentSql.Embedding.Resolve
import FluentSql.Proofs.Run.Session
import FluentSql.Scripted.Client

/-!
# Which guess settles an embed

The columns that may refer to the base table are probed one after another, and a column whose
statement fails is ruled out. This module says what becomes of an embed once a guess answers.

1. `Runner.probe_ruledOut`: guesses that are ruled out leave one event each, beside that of their
   statement, and do nothing else.
2. `Runner.resolveEmbed_eq_settled_iff`: the first guess that answers settles the embed exactly when
   the embeds in its rows are resolved. A failure of one of these is taken for a failure of the
   guess: it is logged, and the guesses that are left are probed.
3. `Runner.resolveEmbed_of_key`: under a key that the row itself holds, the same failure is the
   failure of the embed.
-/

namespace FluentSql

namespace Runner

variable {σ : Type} {runner : Runner σ} {complete : Completion σ} {embed : Embed} {base : String}
  {row : Row} {key : Json} {session done : Session σ}

/-! ## Statements and completions -/

/-- Resolves the embeds that are inside an embed, in its rows. -/
def completion (runner : Runner σ) (embed : Embed) : Completion σ := fun related => ExceptT.mk do
  let progress ← runner.resolveRows embed.embeds embed.table related
  pure progress.result

theorem resolveEmbed_eq (runner : Runner σ) (embed : Embed) (base : String) (row : Row) :
    runner.resolveEmbed embed base row =
      runner.embedValue (runner.completion embed) embed base row := by
  cases embed
  rw [resolveEmbed]
  rfl

/-- The rows that a statement selects, as they are. -/
def selectedRows (runner : Runner σ) (statement : Except Error Fragment) : Run σ (List Row) := do
  let fragment ← ExceptT.mk (pure statement)
  runner.fetch fragment

theorem fetchRelated_eq (runner : Runner σ) (complete : Completion σ)
    (statement : Except Error Fragment) :
    runner.fetchRelated complete statement = runner.selectedRows statement >>= complete := by
  rw [fetchRelated, selectedRows, bind_assoc]

theorem fetchRelated_of_error {statement : Except Error Fragment} {error : Error}
    (fails : (runner.selectedRows statement).run session = (.error error, done)) :
    (runner.fetchRelated complete statement).run session = (.error error, done) := by
  rw [fetchRelated_eq, Run.bind_of_error fails]

theorem fetchRelated_of_ok {statement : Except Error Fragment} {rows : List Row}
    (answers : (runner.selectedRows statement).run session = (.ok rows, done)) :
    (runner.fetchRelated complete statement).run session = (complete rows).run done := by
  rw [fetchRelated_eq, Run.bind_of_ok answers]

/-! ## Probing -/

theorem probe_of_error {column : String} {error : Error} (failed : Nat) (rest : List String)
    (fails : (runner.fetchRelated complete (embed.statement column key "")).run session =
      (.error error, done)) :
    runner.probe complete embed base key failed (column :: rest) session =
      runner.probe complete embed base key (failed + 1) rest
        (done.log (.probeFailed embed.table column error)) := by
  rw [probe, InSession.bind_eq, fails]
  rfl

/-- The session after a probe that found rows. -/
def found (embed : Embed) (base column : String) (failed : Nat) (session : Session σ) : Session σ :=
  if 0 < failed then session.log (.lateProbe embed.table base column (failed + 1)) else session

theorem probe_of_ok {column : String} {rows : List Row} (failed : Nat) (rest : List String)
    (succeeds : (runner.fetchRelated complete (embed.statement column key "")).run session =
      (.ok rows, done)) :
    runner.probe complete embed base key failed (column :: rest) session =
      (Embed.ofProbe rows, found embed base column failed done) := by
  rw [probe, InSession.bind_eq, succeeds, found]
  dsimp only
  split <;> rfl

/-- The statements of guesses fail one after another, and lead from one session to another. -/
inductive RuledOut (runner : Runner σ) (embed : Embed) (key : Json) :
    List String → Session σ → Session σ → Prop
  | none {session : Session σ} : RuledOut runner embed key [] session session
  | more {column : String} {rest : List String} {error : Error} {session failed last : Session σ} :
      (runner.selectedRows (embed.statement column key "")).run session = (.error error, failed) →
      RuledOut runner embed key rest (failed.log (.probeFailed embed.table column error)) last →
      RuledOut runner embed key (column :: rest) session last

/-- Guesses that are ruled out are passed over. -/
theorem probe_ruledOut {before : List String} (ruledOut : RuledOut runner embed key before session done)
    (failed : Nat) (after : List String) :
    runner.probe complete embed base key failed (before ++ after) session =
      runner.probe complete embed base key (failed + before.length) after done := by
  induction ruledOut generalizing failed with
  | none => rfl
  | more fails _ ih =>
    rw [List.cons_append, probe_of_error failed _ (fetchRelated_of_error fails), ih,
      List.length_cons, Nat.add_assoc, Nat.add_comm 1]

/-! ## The value of an embed -/

theorem embedValue_of_key (found : runner.findKey embed row session = (some key, done)) :
    (runner.embedValue complete embed base row).run session =
      (runner.fetchByKey complete embed key).run done := by
  have lifted : (liftM (runner.findKey embed row) : Run σ (Option Json)).run session =
      (.ok (some key), done) := by
    show (Except.ok (runner.findKey embed row session).1, (runner.findKey embed row session).2) = _
    rw [found]
  rw [embedValue, Run.bind_of_ok lifted]

theorem embedValue_of_guesses (keyless : runner.findKey embed row session = (none, done))
    (keyed : row.present? runner.settings.convention.primaryKey = some key) :
    (runner.embedValue complete embed base row).run session =
      (runner.probe complete embed base key 0
        (runner.settings.convention.reverseGuesses base) done).map .ok id := by
  have lifted : (liftM (runner.findKey embed row) : Run σ (Option Json)).run session =
      (.ok none, done) := by
    show (Except.ok (runner.findKey embed row session).1, (runner.findKey embed row session).2) = _
    rw [keyless]
  rw [embedValue, Run.bind_of_ok lifted]
  simp only [keyed]
  rfl

/-- Under a key of the row itself, a failure of the embeds in the related row is a failure of the
embed. -/
theorem resolveEmbed_of_key {rows : List Row} {error : Error} {answered failed : Session σ}
    (found : runner.findKey embed row session = (some key, done))
    (answers : (runner.selectedRows
        (embed.statement runner.settings.convention.primaryKey key " LIMIT 1")).run done =
      (.ok rows, answered))
    (fails : (runner.completion embed rows).run answered = (.error error, failed)) :
    (runner.resolveEmbed embed base row).run session = (.error error, failed) := by
  have unfetched := (fetchRelated_of_ok answers).trans fails
  rw [resolveEmbed_eq, embedValue_of_key found, fetchByKey, Run.bind_of_error unfetched]

end Runner

/-! ## The first guess that answers -/

/-- The first guess whose statement does not fail, in a row that holds no key of an embed. -/
structure FirstAnswer {σ : Type} (runner : Runner σ) (embed : Embed) (base : String) (row : Row)
    (session : Session σ) where
  /-- The session in which the probing starts. -/
  start : Session σ
  keyless : runner.findKey embed row session = (none, start)
  /-- The primary key of the row. -/
  key : Json
  keyed : row.present? runner.settings.convention.primaryKey = some key
  before : List String
  column : String
  after : List String
  guesses : runner.settings.convention.reverseGuesses base = before ++ column :: after
  /-- The session when all guesses before have failed. -/
  reached : Session σ
  ruledOut : runner.RuledOut embed key before start reached
  rows : List Row
  /-- The session when the guess has answered. -/
  answered : Session σ
  answers : (runner.selectedRows (embed.statement column key "")).run reached = (.ok rows, answered)

namespace FirstAnswer

variable {σ : Type} {runner : Runner σ} {embed : Embed} {base : String} {row : Row}
  {session : Session σ}

/-- The rows of the guess when the embeds in them are resolved, or the error met on the way. -/
def completed (first : FirstAnswer runner embed base row session) :
    Except Error (List Row) × Session σ :=
  (runner.completion embed first.rows).run first.answered

/-- What the embed comes to if the guess settles it: no later guess is probed, and a failure of the
embeds in its rows is a failure of the embed. -/
def settled (first : FirstAnswer runner embed base row session) : Except Error Json × Session σ :=
  match first.completed with
  | (.ok related, done) =>
    (.ok (Embed.ofProbe related), Runner.found embed base first.column first.before.length done)
  | (.error error, done) => (.error error, done)

/-- What the embed comes to if the guess is given up for an error: what the guesses after it find,
or null. -/
def givenUp (first : FirstAnswer runner embed base row session) (error : Error)
    (done : Session σ) : Except Error Json × Session σ :=
  let (value, last) := runner.probe (runner.completion embed) embed base first.key
    (first.before.length + 1) first.after (done.log (.probeFailed embed.table first.column error))
  (.ok value, last)

theorem resolveEmbed_eq_probe (first : FirstAnswer runner embed base row session) :
    (runner.resolveEmbed embed base row).run session =
      (runner.probe (runner.completion embed) embed base first.key first.before.length
        (first.column :: first.after) first.reached).map .ok id := by
  rw [Runner.resolveEmbed_eq, Runner.embedValue_of_guesses first.keyless first.keyed,
    first.guesses, Runner.probe_ruledOut first.ruledOut, Nat.zero_add]

theorem resolveEmbed_of_completed (first : FirstAnswer runner embed base row session)
    {related : List Row} {done : Session σ} (resolved : first.completed = (.ok related, done)) :
    (runner.resolveEmbed embed base row).run session = first.settled := by
  have fetched := (Runner.fetchRelated_of_ok first.answers).trans resolved
  rw [first.resolveEmbed_eq_probe, Runner.probe_of_ok _ _ fetched, settled, resolved]
  rfl

theorem resolveEmbed_of_incomplete (first : FirstAnswer runner embed base row session)
    {error : Error} {done : Session σ} (fails : first.completed = (.error error, done)) :
    (runner.resolveEmbed embed base row).run session = first.givenUp error done := by
  have unfetched := (Runner.fetchRelated_of_ok first.answers).trans fails
  rw [first.resolveEmbed_eq_probe, Runner.probe_of_error _ _ unfetched, givenUp]
  rfl

end FirstAnswer

/-- The main result: the first guess that answers settles the embed exactly when the embeds in its
rows are resolved; else it is given up, and the embed does not fail. -/
theorem Runner.resolveEmbed_eq_settled_iff {σ : Type} {runner : Runner σ} {embed : Embed}
    {base : String} {row : Row} {session : Session σ}
    (first : FirstAnswer runner embed base row session) :
    ((runner.resolveEmbed embed base row).run session = first.settled ↔
      ∃ related done, first.completed = (.ok related, done)) ∧
    ∀ error done, first.completed = (.error error, done) →
      (runner.resolveEmbed embed base row).run session = first.givenUp error done := by
  refine ⟨⟨?_, ?_⟩, fun error done fails => first.resolveEmbed_of_incomplete fails⟩
  · intro same
    cases outcome : first.completed with
    | mk result done =>
      cases result with
      | ok related => exact ⟨related, done, rfl⟩
      | error error =>
        -- Probing ends with a value, and the guess would have to end with the error.
        rw [first.resolveEmbed_of_incomplete outcome, FirstAnswer.settled, outcome] at same
        cases congrArg Prod.fst same
  · rintro ⟨related, done, resolved⟩
    exact first.resolveEmbed_of_completed resolved

/-! ## Lessons of a course, with their teachers -/

namespace Lessons

/-- The lessons of a course refer to it by `course_id`, and to their teacher by `teacher_id`. A
column `courses_id` refers to something else. -/
def script (teachers : ClientReply) : Script ClientReply :=
  [⟨none, some "\"lessons\".\"course_id\"", none, none, none,
      .ok [[("id", .int 1), ("teacher_id", .int 5)]]⟩,
    ⟨none, some "\"lessons\".\"courses_id\"", none, none, none,
      .ok [[("title", .string "Another lesson")]]⟩,
    ⟨none, some "FROM \"teachers\"", none, none, none, teachers⟩]

def runner : Runner (Script ClientReply) := ⟨.scripted, .default⟩

def embed : Embed := ⟨"lessons", none, ["*"], [⟨"teachers", none, ["*"], []⟩]⟩

def course : Row := [("id", .int 2)]

def session (teachers : ClientReply) : Session (Script ClientReply) := ⟨script teachers, []⟩

/-- The event of the statement that `course_id` answers. -/
def answered : Event :=
  .statement none 1 (.ok 1)
    "SELECT \"lessons\".* FROM \"lessons\" WHERE \"lessons\".\"course_id\" = $1"

/-- The guess `course_id` comes first and answers. -/
def first (teachers : ClientReply) :
    FirstAnswer runner embed "courses" course (session teachers) where
  start := session teachers
  keyless := rfl
  key := .int 2
  keyed := rfl
  before := []
  column := "course_id"
  after := ["courses_id", "user_id"]
  guesses := rfl
  reached := session teachers
  ruledOut := .none
  rows := [[("id", .int 1), ("teacher_id", .int 5)]]
  answered := (session teachers).log answered
  answers := rfl

/-- What the client says when it cannot reach the teachers. -/
def lost : Error := .other "connection lost"

/-- With teachers that are found the guess settles the embed, and without it is given up. -/
theorem settled_or_givenUp :
    (runner.resolveEmbed embed "courses" course).run (session (.ok [])) =
        (first (.ok [])).settled ∧
      (runner.resolveEmbed embed "courses" course).run (session (.error lost)) =
        (first (.error lost)).givenUp lost (first (.error lost)).completed.2 :=
  ⟨(Runner.resolveEmbed_eq_settled_iff (first (.ok []))).1.mpr ⟨_, _, rfl⟩,
    (Runner.resolveEmbed_eq_settled_iff (first (.error lost))).2 _ _ rfl⟩

/-- Though `course_id` answers, lessons that are found through another column are embedded when the
teachers cannot be reached, and nothing fails. -/
theorem embedded_through_another_guess :
    (first (.error lost)).settled.1 = .error lost ∧
      ((runner.resolveEmbed embed "courses" course).run (session (.error lost))).1 =
        .ok (.object [("title", .string "Another lesson"), ("teachers", .null)]) ∧
      (runner.resolveEmbed embed "courses" course).run (session (.error lost)) ≠
        (first (.error lost)).settled ∧
      (runner.resolveRows [embed] "courses" [course] (session (.error lost))).1.stopped = none := by
  have fails : (first (.error lost)).settled.1 = .error lost := rfl
  have succeeds : ((runner.resolveEmbed embed "courses" course).run (session (.error lost))).1 =
      .ok (.object [("title", .string "Another lesson"), ("teachers", .null)]) := rfl
  refine ⟨fails, succeeds, ?_, rfl⟩
  intro same
  rw [same, fails] at succeeds
  cases succeeds

end Lessons

end FluentSql
