import FluentSql.Proofs.Distinct
import FluentSql.Proofs.Embedding.Beside
import FluentSql.Proofs.Selection.Printed

/-!
# The column that finds the related rows

An embed without further embeds is found in one of three ways: by the primary key of its table,
where the row holds a key; by probing the columns of its table, where the row has a primary key; and
else not at all. This module says what a client is asked in each of them, and what the embed comes
to.

Results:
1. `Runner.run_selectedRows`: the client is asked once for each statement, and nothing is done to
   the rows of its answer.
2. `Runner.probe_eq_untilAnswered`: columns that no statement can be made of are passed over, and
   the others are asked for until the client does not refuse.
3. `Runner.resolveEmbed_by_column`: what the client is asked for an embed, and what the embed comes
   to.
-/

namespace FluentSql

/-! ## Values that a row holds -/

namespace Row

variable {row : Row} {column : String} {columns : List String} {value : Json}

/-- The row has a value in the column, which is not null. -/
def Holds (row : Row) (column : String) (value : Json) : Prop :=
  row.get? column = some value ∧ value ≠ .null

/-- The value is in the first of the columns in which the row has one that is not null. -/
def HoldsFirst (row : Row) (columns : List String) (value : Json) : Prop :=
  ∃ before column after, columns = before ++ column :: after ∧ row.Holds column value ∧
    ∀ earlier ∈ before, ∀ other, ¬ row.Holds earlier other

theorem present?_eq_some_iff : row.present? column = some value ↔ row.Holds column value := by
  rw [present?, Option.filter_eq_some_iff, Holds]
  refine and_congr_right fun _ => ?_
  cases value <;> simp [Json.isNull]

theorem present?_eq_none_iff :
    row.present? column = none ↔ ∀ value, ¬ row.Holds column value := by
  simp only [Option.eq_none_iff_forall_ne_some, ne_eq, present?_eq_some_iff]

theorem findSome?_eq_some_iff :
    columns.findSome? row.present? = some value ↔ row.HoldsFirst columns value := by
  simp only [List.findSome?_eq_some_iff, present?_eq_some_iff, present?_eq_none_iff, HoldsFirst]

theorem findSome?_eq_none_iff :
    columns.findSome? row.present? = none ↔ ∀ column ∈ columns, ∀ value, ¬ row.Holds column value := by
  simp only [List.findSome?_eq_none_iff, present?_eq_none_iff]

end Row

/-! ## What is found -/

/-- What an embed comes to when the client was asked for it by its primary key: its first row, null if
there is none, or the refusal. -/
inductive FoundByKey : Except Error (List Row) → Except Error Json → Prop
  | refused (error : Error) : FoundByKey (.error error) (.error error)
  | nothing : FoundByKey (.ok []) (.ok .null)
  | row (first : Row) (rest : List Row) : FoundByKey (.ok (first :: rest)) (.ok (.object first))

/-- What an embed comes to when the client was asked for it by its columns: the one row that was
answered by itself, none or several as an array, and null if all was refused. -/
inductive FoundByProbe : Option (List Row) → Json → Prop
  | refused : FoundByProbe none .null
  | one (row : Row) : FoundByProbe (some [row]) (.object row)
  | others {rows : List Row} (others : rows.length ≠ 1) :
      FoundByProbe (some rows) (.array (rows.map .object))

theorem foundByKey_iff {answer : Except Error (List Row)} {outcome : Except Error Json} :
    FoundByKey answer outcome ↔ outcome = answer.map Embed.ofKey := by
  constructor
  · intro found
    cases found <;> rfl
  · rintro rfl
    cases answer with
    | error error => exact .refused error
    | ok rows =>
      cases rows with
      | nil => exact .nothing
      | cons first rest => exact .row first rest

theorem foundByProbe_iff {answer : Option (List Row)} {value : Json} :
    FoundByProbe answer value ↔ value = (answer.map Embed.ofProbe).getD .null := by
  constructor
  · intro found
    cases found with
    | refused | one => rfl
    | @others rows others =>
      match rows with
      | [] | _ :: _ :: _ => rfl
      | [_] => exact absurd rfl others
  · rintro rfl
    match answer with
    | none => exact .refused
    | some [row] => exact .one row
    | some [] | some (_ :: _ :: _) => exact .others (by simp)

/-! ## Requests -/

namespace Client

variable {σ : Type}

/-- Hands over requests in order until one is not refused. The result has the requests that were
handed over, and the rows of the last of them if it was not refused. -/
def untilAnswered (client : Client σ) : List Request → σ → List Request × Option (List Row)
  | [], _ => ([], none)
  | request :: rest, state =>
    match client.answer request state with
    | (.ok rows, _) => ([request], some rows)
    | (.error _, state) =>
      (request :: (client.untilAnswered rest state).1, (client.untilAnswered rest state).2)

theorem untilAnswered_sublist (client : Client σ) (requests : List Request) (state : σ) :
    (client.untilAnswered requests state).1.Sublist requests := by
  induction requests generalizing state with
  | nil => exact .slnil
  | cons request rest ih =>
    rw [untilAnswered]
    split
    · exact (List.nil_sublist rest).cons_cons request
    · exact (ih _).cons_cons request

end Client

namespace Embed

variable {embed : Embed}

theorem Readable.simple (readable : embed.Readable) : isSimpleName embed.table.toList = true := by
  cases readable with
  | intro simple _ _ _ => exact simple

/-- The table of an embed that can be read. -/
def Readable.table (readable : embed.Readable) : Identifier := ⟨embed.table, readable.simple⟩

/-- The request for the rows of a table that have a value in a column. -/
def request (embed : Embed) (tag : Option String) (table column : Identifier) (value : Json)
    (ending : String) : Request :=
  ⟨tag,
    "SELECT " ++ embed.selection.columnListSql table ++ " FROM " ++ table.sql ++ " WHERE " ++
      table.sql ++ "." ++ column.sql ++ " = $1" ++ ending,
    [value]⟩

/-- Requests for different columns are different. -/
theorem request_injective (embed : Embed) (tag : Option String) (table : Identifier) (value : Json)
    (ending : String) : Function.Injective (embed.request tag table · value ending) := by
  intro column column' same
  have texts := congrArg Request.sql same
  simp only [request, Identifier.sql, String.append_left_inj, String.append_right_inj] at texts
  exact Identifier.name_injective texts

/-- No guess is asked for twice. -/
theorem nodup_requests (embed : Embed) (convention : NamingConvention) (tag : Option String)
    (table : Identifier) (base : String) (key : Json) :
    (((convention.reverseGuesses base).filterMap Identifier.ofName?).map
      (embed.request tag table · key "")).Nodup := by
  refine List.Nodup.map (embed.request_injective tag table key "") ?_
  refine List.Nodup.filterMap ?_ (nodup_eraseDups _)
  intro guess guess' column named named'
  rw [← Identifier.ofName?_eq_some_iff.mp named, ← Identifier.ofName?_eq_some_iff.mp named']

theorem exists_statement (readable : embed.Readable) (column : Identifier) (value : Json)
    (ending : String) :
    ∃ fragment, embed.statement column.name value ending = .ok fragment ∧
      ∀ tag, Request.mk tag (Fragment.sql fragment) (Fragment.params fragment) =
        embed.request tag readable.table column value ending := by
  have named : ColumnRef.ofNames embed.table column.name = .ok ⟨readable.table, column⟩ :=
    ColumnRef.ofNames_name readable.table column
  have sign : " = $1" = " = " ++ Fragment.placeholder 1 := by decide
  refine ⟨_, by rw [statement, named]; rfl, fun tag => congrArg (Request.mk tag · [value]) ?_⟩
  rw [sign]
  simp [Fragment.sql, Fragment.text, Fragment.bound, Fragment.sqlFrom, ColumnRef.sql,
    String.append_assoc]

theorem statement_of_none (embed : Embed) {column : String}
    (other : Identifier.ofName? column = none) (value : Json) (ending : String) :
    ∃ error, embed.statement column value ending = .error error := by
  rw [statement, ColumnRef.ofNames, Identifier.ofName, Identifier.ofName, other]
  cases Identifier.ofName? embed.table with
  | none => exact ⟨_, rfl⟩
  | some table => exact ⟨_, rfl⟩

end Embed

namespace Runner

/-! ## Asking a client that records -/

variable {σ : Type} {runner : Runner σ} {embed : Embed}

/-- Rows in which nothing is to be embedded are left as they are. -/
theorem resolveRows_nil (runner : Runner σ) (base : String) (rows : List Row) :
    runner.resolveRows [] base rows = pure ⟨rows, none⟩ := by
  induction rows with
  | nil => rfl
  | cons row rest ih =>
    rw [resolveRows] at ih ⊢
    rw [eachRow, resolveRow, pure_bind, ih]
    rfl

theorem completion_of_leaf (leaf : embed.embeds = []) : runner.completion embed = pure := by
  funext rows
  rw [completion, leaf, resolveRows_nil]
  rfl

theorem fetchRelated_pure (runner : Runner σ) (statement : Except Error Fragment) :
    runner.fetchRelated pure statement = runner.selectedRows statement := by
  rw [fetchRelated_eq, bind_pure]

theorem findKey_client (runner : Runner σ) (embed : Embed) (row : Row) (session : Session σ) :
    (runner.findKey embed row session).2.client = session.client := by
  unfold findKey
  cases embed.foreignKey with
  | none => rfl
  | some column =>
    dsimp only
    cases row.present? column <;> rfl

/-- A runner that uses a client and keeps what it is asked. -/
def recorded (client : Client σ) (settings : Settings) : Runner (σ × List Request) :=
  ⟨client.recording, settings⟩

variable (client : Client σ) (settings : Settings)

/-- A client is asked once, and its rows are handed on as they are. -/
theorem run_selectedRows (readable : embed.Readable) (column : Identifier) (value : Json)
    (ending : String) (session : Session (σ × List Request)) :
    let request := embed.request settings.tag readable.table column value ending
    let answer := client.answer request session.client.1
    ∃ events, ((recorded client settings).selectedRows
        (embed.statement column.name value ending)).run session =
      (answer.1, ⟨(answer.2, session.client.2 ++ [request]), events⟩) := by
  obtain ⟨fragment, written, requested⟩ := embed.exists_statement readable column value ending
  rw [written, ← requested settings.tag]
  exact ⟨_, rfl⟩

/-- Nothing is asked where no statement can be made. -/
theorem run_selectedRows_of_error (runner : Runner σ) {statement : Except Error Fragment}
    {error : Error} (fails : statement = .error error) (session : Session σ) :
    (runner.selectedRows statement).run session = (.error error, session) := by
  rw [fails]
  rfl

/-- Probing asks for the columns that have simple names, in order, until the client does not refuse.
-/
theorem probe_eq_untilAnswered (readable : embed.Readable) (base : String) (key : Json)
    (columns : List String) (failed : Nat) (session : Session (σ × List Request)) :
    let requests := (columns.filterMap Identifier.ofName?).map fun column =>
      embed.request settings.tag readable.table column key ""
    let asked := client.untilAnswered requests session.client.1
    let result := (recorded client settings).probe pure embed base key failed columns session
    result.1 = (asked.2.map Embed.ofProbe).getD .null ∧
      result.2.client.2 = session.client.2 ++ asked.1 := by
  induction columns generalizing failed session with
  | nil => exact ⟨rfl, (List.append_nil _).symm⟩
  | cons column rest ih =>
    dsimp only
    cases name : Identifier.ofName? column with
    | none =>
      obtain ⟨error, fails⟩ := embed.statement_of_none name key ""
      have refused := (recorded client settings).run_selectedRows_of_error fails session
      rw [← fetchRelated_pure] at refused
      rw [List.filterMap_cons_none name, probe_of_error _ _ refused]
      exact ih _ _
    | some ident =>
      obtain ⟨events, answers⟩ :=
        run_selectedRows client settings readable ident key "" session
      rw [Identifier.ofName?_eq_some_iff.mp name, ← fetchRelated_pure] at answers
      rw [List.filterMap_cons_some name, List.map_cons, Client.untilAnswered]
      cases outcome : client.answer (embed.request settings.tag readable.table ident key "")
          session.client.1 with
      | mk result state =>
        rw [outcome] at answers
        cases result with
        | ok rows =>
          rw [probe_of_ok _ _ answers, found]
          constructor
          · rfl
          · split <;> rfl
        | error error =>
          rw [probe_of_error _ _ answers]
          obtain ⟨value, received⟩ := ih (failed + 1)
            (Session.log ⟨(state, session.client.2 ++ [_]), events⟩
              (.probeFailed embed.table column error))
          exact ⟨value, received.trans (List.append_assoc ..)⟩

theorem run_fetchByKey (runner : Runner σ) (complete : Completion σ) (embed : Embed) (key : Json)
    (session : Session σ) :
    (runner.fetchByKey complete embed key).run session =
      ((runner.fetchRelated complete
        (embed.statement runner.settings.convention.primaryKey key " LIMIT 1")).run session).map
          (Except.map Embed.ofKey) id := by
  rw [fetchByKey]
  cases outcome : (runner.fetchRelated complete
      (embed.statement runner.settings.convention.primaryKey key " LIMIT 1")).run session with
  | mk result done =>
    cases result with
    | error error =>
      rw [Run.bind_of_error outcome]
      rfl
    | ok rows =>
      rw [Run.bind_of_ok outcome]
      rfl

/-- A look-up by the primary key asks once, for one row at most. -/
theorem fetchByKey_pure (readable : embed.Readable) {primary : Identifier}
    (keyed : settings.convention.primaryKey = primary.name) (key : Json)
    (session : Session (σ × List Request)) :
    let request := embed.request settings.tag readable.table primary key " LIMIT 1"
    let result := ((recorded client settings).fetchByKey pure embed key).run session
    result.1 = (client.answer request session.client.1).1.map Embed.ofKey ∧
      result.2.client.2 = session.client.2 ++ [request] := by
  have named : (recorded client settings).settings.convention.primaryKey = primary.name := keyed
  obtain ⟨events, answers⟩ :=
    run_selectedRows client settings readable primary key " LIMIT 1" session
  dsimp only
  rw [run_fetchByKey, named, fetchRelated_pure, answers]
  exact ⟨rfl, rfl⟩

section Leaf

variable {settings} {primary : Identifier} {row : Row} {key : Json}

/-- Where the row holds a key, the embed is looked up by it. -/
theorem resolveEmbed_of_held (readable : embed.Readable) (leaf : embed.embeds = [])
    (keyed : settings.convention.primaryKey = primary.name) (base : String)
    (held : (embed.keyColumns settings.convention).findSome? row.present? = some key)
    (state : σ) (events : List Event) :
    let request := embed.request settings.tag readable.table primary key " LIMIT 1"
    let result := ((recorded client settings).resolveEmbed embed base row).run
      ⟨(state, []), events⟩
    result.2.client.2 = [request] ∧ FoundByKey (client.answer request state).1 result.1 := by
  -- To look for a key leaves events at most, so that the client is as it was.
  have looked := findKey_fst (recorded client settings) embed row ⟨(state, []), events⟩
  have kept := findKey_client (recorded client settings) embed row ⟨(state, []), events⟩
  dsimp only
  rw [resolveEmbed_eq, completion_of_leaf leaf]
  cases found : (recorded client settings).findKey embed row ⟨(state, []), events⟩ with
  | mk looked' done =>
    rw [found] at looked kept
    obtain rfl : looked' = some key := looked.trans held
    obtain ⟨value, received⟩ := fetchByKey_pure client settings readable keyed key done
    rw [kept] at value received
    rw [embedValue_of_key found]
    exact ⟨received, foundByKey_iff.mpr value⟩

/-- Where the row holds no key, the embed depends on the primary key of the row. -/
theorem resolveEmbed_of_keyless (leaf : embed.embeds = [])
    (keyed : settings.convention.primaryKey = primary.name) (base : String)
    (missing : (embed.keyColumns settings.convention).findSome? row.present? = none)
    (state : σ) (events : List Event) :
    ∃ done : Session (σ × List Request), done.client = (state, []) ∧
      ((recorded client settings).resolveEmbed embed base row).run ⟨(state, []), events⟩ =
        match row.present? primary.name with
        | none => (.ok .null, done)
        | some key =>
          ((recorded client settings).probe pure embed base key 0
            (settings.convention.reverseGuesses base) done).map .ok id := by
  have looked := findKey_fst (recorded client settings) embed row ⟨(state, []), events⟩
  have kept := findKey_client (recorded client settings) embed row ⟨(state, []), events⟩
  have named : (recorded client settings).settings.convention.primaryKey = primary.name := keyed
  rw [resolveEmbed_eq, completion_of_leaf leaf]
  cases found : (recorded client settings).findKey embed row ⟨(state, []), events⟩ with
  | mk looked' done =>
    rw [found] at looked kept
    obtain rfl : looked' = none := looked.trans missing
    refine ⟨done, kept, (embedValue_of_none found).trans ?_⟩
    cases numbered : row.present? primary.name with
    | none => rw [named, numbered]
    | some key =>
      rw [named, numbered]
      rfl

/-- There the client is asked for each guess until it does not refuse. -/
theorem resolveEmbed_of_primary (readable : embed.Readable) (leaf : embed.embeds = [])
    (keyed : settings.convention.primaryKey = primary.name) (base : String)
    (missing : (embed.keyColumns settings.convention).findSome? row.present? = none)
    (held : row.present? primary.name = some key) (state : σ) (events : List Event) :
    let guesses := (settings.convention.reverseGuesses base).filterMap Identifier.ofName?
    let asked := client.untilAnswered
      (guesses.map (embed.request settings.tag readable.table · key "")) state
    let result := ((recorded client settings).resolveEmbed embed base row).run
      ⟨(state, []), events⟩
    result.2.client.2 = asked.1 ∧ asked.1.Nodup ∧
      ∃ value, result.1 = .ok value ∧ FoundByProbe asked.2 value := by
  obtain ⟨done, kept, resolves⟩ :=
    resolveEmbed_of_keyless client leaf keyed base missing state events
  obtain ⟨value, received⟩ := probe_eq_untilAnswered client settings readable base key
    (settings.convention.reverseGuesses base) 0 done
  have once := (client.untilAnswered_sublist _ state).nodup
    (embed.nodup_requests settings.convention settings.tag readable.table base key)
  rw [held] at resolves
  rw [kept] at value received
  dsimp only
  rw [resolves]
  exact ⟨received, once, _, rfl, foundByProbe_iff.mpr value⟩

end Leaf

/-- The main result, on an embed of the form that `Selection.readable_of_parseText` gives, in which
nothing is embedded. Where the row holds a key, the client is asked for it alone, and a refusal is
the failure of the embed. Else, where the row has a primary key, the client is asked for each guess
that is a simple name, once and in order, until it does not refuse, and the embed does not fail. Else
the client is not asked. -/
theorem resolveEmbed_by_column (readable : embed.Readable) (leaf : embed.embeds = [])
    {primary : Identifier} (keyed : settings.convention.primaryKey = primary.name) (base : String)
    (row : Row) (state : σ) (events : List Event) :
    let request := embed.request settings.tag readable.table
    let columns := embed.foreignKey.toList ++ settings.convention.forwardGuesses embed.table
    let result := ((recorded client settings).resolveEmbed embed base row).run
      ⟨(state, []), events⟩
    let received := result.2.client.2
    (∀ key, row.HoldsFirst columns key →
      received = [request primary key " LIMIT 1"] ∧
        FoundByKey (client.answer (request primary key " LIMIT 1") state).1 result.1) ∧
    ((∀ column ∈ columns, ∀ value, ¬ row.Holds column value) →
      (∀ key, row.Holds primary.name key →
        ∃ guesses : List Identifier,
          guesses.map Identifier.name =
            (settings.convention.reverseGuesses base).filter (isSimpleName ·.toList) ∧
          let asked := client.untilAnswered (guesses.map (request · key "")) state
          received = asked.1 ∧ asked.1.Nodup ∧
            ∃ value, result.1 = .ok value ∧ FoundByProbe asked.2 value) ∧
      ((∀ value, ¬ row.Holds primary.name value) → received = [] ∧ result.1 = .ok .null)) := by
  refine ⟨fun key held => ?_, fun missing => ⟨fun key held => ?_, fun absent => ?_⟩⟩
  · exact resolveEmbed_of_held client readable leaf keyed base
      (Row.findSome?_eq_some_iff.mpr held) state events
  · exact ⟨_, Identifier.map_name_filterMap _, resolveEmbed_of_primary client readable leaf keyed base
      (Row.findSome?_eq_none_iff.mpr missing) (Row.present?_eq_some_iff.mpr held) state events⟩
  · obtain ⟨done, kept, resolves⟩ := resolveEmbed_of_keyless client leaf keyed base
      (Row.findSome?_eq_none_iff.mpr missing) state events
    rw [Row.present?_eq_none_iff.mpr absent] at resolves
    rw [resolves, kept]
    exact ⟨rfl, rfl⟩

end Runner

/-! ## Pupils of a class -/

namespace Pupils

def embed : Embed := ⟨"pupils", none, [], []⟩

theorem embed_readable : embed.Readable := .intro (by decide) nofun nofun nofun

def primary : Identifier := ⟨"id", by decide⟩

/-- Pupils refer to their class by `form_id`, which is guessed after a name that is not simple. -/
def settings : Settings :=
  { Settings.default with
    convention := { NamingConvention.default with reverseExtras := ["class no.", "form_id"] } }

/-- A client that knows the pupils of three classes: two, one and none. -/
def client : Client Unit :=
  .ofAnswers fun sql params =>
    if sql = "SELECT \"pupils\".* FROM \"pupils\" WHERE \"pupils\".\"id\" = $1 LIMIT 1" then
      .ok [[("id", params.headD .null)]]
    else if sql = "SELECT \"pupils\".* FROM \"pupils\" WHERE \"pupils\".\"form_id\" = $1" then
      match params with
      | [.number (.int 2)] => .ok [[("id", .int 7)], [("id", .int 8)]]
      | [.number (.int 3)] => .ok [[("id", .int 9)]]
      | [.number (.int 4)] => .ok []
      | _ => .error (.other "no such class")
    else .error (.other "no such column")

/-- What the client is asked for the pupils of a class, and what is found. -/
def found (row : Row) : List (String × List Json) × Except Error Json :=
  let result := ((Runner.recorded client settings).resolveEmbed embed "classes" row).run
    ⟨((), []), []⟩
  (result.2.client.2.map fun request => (request.sql, request.params), result.1)

/-- The statements for the pupils of a class with a number. -/
def asked (number : Json) : List (String × List Json) :=
  [("SELECT \"pupils\".* FROM \"pupils\" WHERE \"pupils\".\"class_id\" = $1", [number]),
    ("SELECT \"pupils\".* FROM \"pupils\" WHERE \"pupils\".\"classes_id\" = $1", [number]),
    ("SELECT \"pupils\".* FROM \"pupils\" WHERE \"pupils\".\"form_id\" = $1", [number])]

/-- The guesses that are simple names. -/
def guesses : List Identifier :=
  [⟨"class_id", by decide⟩, ⟨"classes_id", by decide⟩, ⟨"form_id", by decide⟩]

/-- Pupils of a class that names one, of classes with two, one and no pupils, of a class that is not
known, and of one without a number. -/
theorem found_by_column :
    found [("pupil_id", .int 7), ("id", .int 2)] =
        ([("SELECT \"pupils\".* FROM \"pupils\" WHERE \"pupils\".\"id\" = $1 LIMIT 1",
            [.int 7])],
          .ok (.object [("id", .int 7)])) ∧
      found [("pupil_id", .null), ("id", .int 2)] =
        (asked (.int 2), .ok (.array [.object [("id", .int 7)], .object [("id", .int 8)]])) ∧
      found [("id", .int 3)] = (asked (.int 3), .ok (.object [("id", .int 9)])) ∧
      found [("id", .int 4)] = (asked (.int 4), .ok (.array [])) ∧
      found [("id", .int 5)] = (asked (.int 5), .ok .null) ∧
      found [("id", .null)] = ([], .ok .null) := by
  have keyed : settings.convention.primaryKey = primary.name := rfl
  have column row :=
    Runner.resolveEmbed_by_column client settings embed_readable rfl keyed "classes" row () []
  have looked {row : Row} {number : Json}
      (missing : (embed.keyColumns settings.convention).findSome? row.present? = none)
      (numbered : row.present? primary.name = some number) :
      let asked := client.untilAnswered
        (guesses.map (embed.request settings.tag embed_readable.table · number "")) ()
      found row = (asked.1.map fun request => (request.sql, request.params),
        .ok ((asked.2.map Embed.ofProbe).getD .null)) := by
    have keyless := Row.findSome?_eq_none_iff.mp missing
    obtain ⟨guesses', names, received, -, value, resolved, probed⟩ :=
      ((column row).2 keyless).1 number (Row.present?_eq_some_iff.mp numbered)
    obtain rfl : guesses' = guesses :=
      List.map_injective_iff.mpr Identifier.name_injective (names.trans rfl)
    dsimp only
    rw [found, received, resolved, foundByProbe_iff.mp probed]
  refine ⟨?_, looked rfl rfl, looked rfl rfl, looked rfl rfl, looked rfl rfl, ?_⟩
  · have held : Row.HoldsFirst [("pupil_id", .int 7), ("id", .int 2)]
        (embed.keyColumns settings.convention) (.int 7) := Row.findSome?_eq_some_iff.mp rfl
    obtain ⟨received, byKey⟩ := (column _).1 _ held
    rw [found, received, foundByKey_iff.mp byKey]
    rfl
  · have missing :
        (embed.keyColumns settings.convention).findSome? (Row.present? [("id", .null)]) = none := rfl
    have keyless := Row.findSome?_eq_none_iff.mp missing
    obtain ⟨received, resolved⟩ := ((column [("id", .null)]).2 keyless).2
      (Row.present?_eq_none_iff.mp rfl)
    rw [found, received, resolved]
    rfl

end Pupils

end FluentSql
