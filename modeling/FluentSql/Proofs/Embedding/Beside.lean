import FluentSql.Proofs.Embedding.Probe
import FluentSql.Proofs.Outcome
import FluentSql.Proofs.Run.Composed
import FluentSql.Selection.Parse

/-!
# Embeds beside each other

The embeds of a selection are resolved one after the other in one row, from which each takes its
key, and into which it is put under the name of its table. So an embed may replace another, or the
key of another.

Results:
1. `Runner.embedValue_congr`: an embed depends on a row only through the columns that are consulted
   for its key.
2. `Runner.steady_resolveRows`: what a client answers whose answers depend on the statement and its
   values only does not depend on what it was asked before, and neither do the rows with their
   embeds.
3. `Runner.resolveRows_holds_each`: an embed that is not replaced by a later one of its table, and
   whose key no earlier one has replaced, comes out as if it stood alone.
-/

namespace FluentSql

/-! ## Columns of a row -/

namespace Row

variable {row row' : Row} {column key : String} {columns more : List String}

theorem get?_insert_self (row : Row) (key : String) (value : Json) :
    (row.insert key value).get? key = some value := by
  induction row with
  | nil => simp [insert, get?]
  | cons field rest ih =>
    rw [insert]
    split
    · rename_i same
      simp [get?, same]
    · rename_i other
      have skipped : (key == field.1) = false := beq_false_of_ne (Ne.symm other)
      rw [get?, List.lookup_cons, skipped]
      exact ih

theorem get?_insert_of_ne (other : column ≠ key) (row : Row) (value : Json) :
    (row.insert key value).get? column = row.get? column := by
  induction row with
  | nil => simp [insert, get?, other]
  | cons field rest ih =>
    rw [insert]
    split
    · rename_i same
      have skipped : (column == key) = false := beq_false_of_ne other
      rw [get?, get?, List.lookup_cons, List.lookup_cons, same, skipped]
    · rw [get?, get?, List.lookup_cons, List.lookup_cons]
      split
      · rfl
      · exact ih

/-- The columns that are looked at until one has a value. -/
def searched (row : Row) : List String → List String
  | [] => []
  | column :: rest =>
    if (row.present? column).isSome then [column] else column :: searched row rest

theorem mem_searched_append (present : column ∈ row.searched columns) :
    column ∈ row.searched (columns ++ more) := by
  induction columns with
  | nil => cases present
  | cons first rest ih =>
    rw [List.cons_append, searched]
    rw [searched] at present
    split
    · rename_i found
      rwa [if_pos found] at present
    · rename_i missing
      rw [if_neg missing] at present
      rcases List.mem_cons.mp present with rfl | later
      · exact List.mem_cons_self
      · exact List.mem_cons_of_mem _ (ih later)

theorem mem_searched_append_of_none (missing : columns.findSome? row.present? = none)
    (present : column ∈ row.searched more) : column ∈ row.searched (columns ++ more) := by
  induction columns with
  | nil => exact present
  | cons first rest ih =>
    rw [List.findSome?_eq_none_iff] at missing
    obtain ⟨absent, missing⟩ := List.forall_mem_cons.mp missing
    rw [List.cons_append, searched, absent, if_neg (by simp)]
    exact List.mem_cons_of_mem _ (ih (List.findSome?_eq_none_iff.mpr missing))

theorem present?_congr (same : row'.get? column = row.get? column) :
    row'.present? column = row.present? column := by
  rw [present?, present?, same]

/-- What is found does not depend on other columns than those that are looked at. -/
theorem findSome?_congr
    (same : ∀ column ∈ row.searched columns, row'.get? column = row.get? column) :
    columns.findSome? row'.present? = columns.findSome? row.present? := by
  induction columns with
  | nil => rfl
  | cons first rest ih =>
    rw [searched] at same
    have head : row'.present? first = row.present? first := by
      refine present?_congr (same first ?_)
      split
      · exact List.mem_singleton_self first
      · exact List.mem_cons_self
    rw [List.findSome?_cons, List.findSome?_cons, head]
    cases found : row.present? first with
    | some value => rfl
    | none =>
      rw [found, if_neg (by simp)] at same
      exact ih fun column present => same column (List.mem_cons_of_mem _ present)

end Row

/-! ## The key of an embed -/

/-- The columns of a row that may hold the key of an embed, in the order in which they are tried. -/
def Embed.keyColumns (convention : NamingConvention) (embed : Embed) : List String :=
  embed.foreignKey.toList ++ convention.forwardGuesses embed.table

/-- The columns of a row that are looked at when an embed is resolved in it: those that may hold its
key, and last the primary key of the row, until one has a value. -/
def Embed.consulted (convention : NamingConvention) (embed : Embed) (row : Row) : List String :=
  row.searched (embed.keyColumns convention ++ [convention.primaryKey])

namespace Runner

variable {σ : Type} {runner : Runner σ} {complete : Completion σ} {embed : Embed} {base : String}
  {row row' : Row} {session done : Session σ}

theorem findKey_fst (runner : Runner σ) (embed : Embed) (row : Row) (session : Session σ) :
    (runner.findKey embed row session).1 =
      (embed.keyColumns runner.settings.convention).findSome? row.present? := by
  unfold findKey Embed.keyColumns
  cases embed.foreignKey with
  | none => rfl
  | some column =>
    rw [Option.toList_some, List.singleton_append, List.findSome?_cons]
    dsimp only
    cases row.present? column <;> rfl

theorem findKey_congr
    (same : ∀ column ∈ row.searched (embed.keyColumns runner.settings.convention),
      row'.get? column = row.get? column) :
    runner.findKey embed row' = runner.findKey embed row := by
  rw [Embed.keyColumns] at same
  unfold findKey
  cases named : embed.foreignKey with
  | none =>
    rw [named, Option.toList_none, List.nil_append] at same
    rw [Row.findSome?_congr same]
  | some column =>
    rw [named, Option.toList_some, List.singleton_append, Row.searched] at same
    have head : row'.present? column = row.present? column := by
      refine Row.present?_congr (same column ?_)
      split
      · exact List.mem_singleton_self column
      · exact List.mem_cons_self
    dsimp only
    rw [head]
    cases found : row.present? column with
    | some key => rfl
    | none =>
      rw [found, if_neg (by simp)] at same
      rw [Row.findSome?_congr fun column present => same column (List.mem_cons_of_mem _ present)]

theorem embedValue_of_none (keyless : runner.findKey embed row session = (none, done)) :
    (runner.embedValue complete embed base row).run session =
      match row.present? runner.settings.convention.primaryKey with
      | none => (.ok .null, done)
      | some key =>
        (runner.probe complete embed base key 0
          (runner.settings.convention.reverseGuesses base) done).map .ok id := by
  have lifted : (liftM (runner.findKey embed row) : Run σ (Option Json)).run session =
      (.ok none, done) := by
    show (Except.ok (runner.findKey embed row session).1, (runner.findKey embed row session).2) = _
    rw [keyless]
  rw [embedValue, Run.bind_of_ok lifted]
  dsimp only
  cases row.present? runner.settings.convention.primaryKey <;> rfl

/-- An embed depends on a row only through the columns that are consulted for its key. -/
theorem embedValue_congr
    (same : ∀ column ∈ embed.consulted runner.settings.convention row,
      row'.get? column = row.get? column) (session : Session σ) :
    (runner.embedValue complete embed base row').run session =
      (runner.embedValue complete embed base row).run session := by
  have keys : runner.findKey embed row' = runner.findKey embed row :=
    findKey_congr fun column present => same column (Row.mem_searched_append present)
  cases found : runner.findKey embed row session with
  | mk key done =>
    have found' : runner.findKey embed row' session = (key, done) := by rw [keys, found]
    cases key with
    | some key => rw [embedValue_of_key found, embedValue_of_key found']
    | none =>
      -- No column of the row holds the key, so that the primary key is consulted, too.
      have missing := runner.findKey_fst embed row session
      rw [found] at missing
      have primary : row'.present? runner.settings.convention.primaryKey =
          row.present? runner.settings.convention.primaryKey := by
        refine Row.present?_congr (same _ (Row.mem_searched_append_of_none missing.symm ?_))
        rw [Row.searched]
        split
        · exact List.mem_singleton_self _
        · exact List.mem_cons_self
      rw [embedValue_of_none found, embedValue_of_none found', primary]

theorem resolveEmbed_congr
    (same : ∀ column ∈ embed.consulted runner.settings.convention row,
      row'.get? column = row.get? column) (session : Session σ) :
    (runner.resolveEmbed embed base row').run session =
      (runner.resolveEmbed embed base row).run session := by
  rw [resolveEmbed_eq, resolveEmbed_eq]
  exact embedValue_congr same session

end Runner

/-! ## Answers that depend on the statement only -/

/-- The client gives these answers, whatever it was asked before. -/
def Client.Gives {σ : Type} (client : Client σ)
    (answers : String → List Json → Except Error (List Row)) : Prop :=
  ∀ request state, (client.answer request state).1 = answers request.sql request.params

/-- Work that comes to the same in all sessions. -/
def Steady {σ α : Type} (work : InSession σ α) : Prop :=
  ∀ session session', (work session).1 = (work session').1

namespace Runner

variable {σ : Type} {runner : Runner σ} {answers : String → List Json → Except Error (List Row)}

theorem steady_covers (gives : runner.client.Gives answers) :
    Covers (fun work => Steady work) runner fun _ => True where
  pure _ _ _ := rfl
  bind := by
    intro _ _ work next first later session session'
    rw [InSession.bind_eq, InSession.bind_eq, first session session']
    exact later _ _ _
  logs _ _ _ := rfl
  sends := by
    intro _ _ _ _ _ fragment _ _ session session'
    rw [run_fetch, run_fetch]
    exact (gives _ _).trans (gives _ _).symm
  inner _ _ _ _ := trivial

/-- Embeds come to the same, whatever was done before. -/
theorem steady_resolveEmbed (gives : runner.client.Gives answers) (embed : Embed) (base : String)
    (row : Row) : Steady (runner.resolveEmbed embed base row).run :=
  (steady_covers gives).resolveEmbed embed trivial base row

theorem steady_resolveRows (gives : runner.client.Gives answers) (embeds : List Embed)
    (base : String) (rows : List Row) : Steady (runner.resolveRows embeds base rows) :=
  (steady_covers gives).resolveRows embeds (fun _ _ => trivial) base rows

/-! ## One row, one embed after the other -/

variable {embeds : List Embed} {embed : Embed} {base : String} {row row' : Row}
  {session done : Session σ}

/-- The step lemma. -/
theorem resolveRow_cons_ok
    (resolved : runner.resolveRow (embed :: embeds) base row session = (⟨row', none⟩, done)) :
    ∃ value mid, (runner.resolveEmbed embed base row).run session = (.ok value, mid) ∧
      runner.resolveRow embeds base (row.insert embed.table value) mid = (⟨row', none⟩, done) := by
  rw [resolveRow, InSession.bind_eq] at resolved
  cases first : (runner.resolveEmbed embed base row).run session with
  | mk outcome mid =>
    rw [first] at resolved
    cases outcome with
    | error error => cases resolved
    | ok value => exact ⟨value, mid, rfl, resolved⟩

theorem resolveRow_cons_of_ok {value : Json} {mid : Session σ}
    (first : (runner.resolveEmbed embed base row).run session = (.ok value, mid)) :
    runner.resolveRow (embed :: embeds) base row session =
      runner.resolveRow embeds base (row.insert embed.table value) mid := by
  rw [resolveRow, InSession.bind_eq, first]

/-- Only the columns with the names of embedded tables change. -/
theorem get?_resolveRow {column : String}
    (resolved : runner.resolveRow embeds base row session = (⟨row', none⟩, done))
    (other : ∀ embed ∈ embeds, embed.table ≠ column) : row'.get? column = row.get? column := by
  induction embeds generalizing row session with
  | nil =>
    rw [resolveRow] at resolved
    cases resolved
    rfl
  | cons embed rest ih =>
    obtain ⟨value, mid, -, later⟩ := resolveRow_cons_ok resolved
    obtain ⟨apart, other⟩ := List.forall_mem_cons.mp other
    rw [ih later other, Row.get?_insert_of_ne (Ne.symm apart)]

/-- The run lemma: when the turn of an embed comes, the columns that are not named like the embeds
before it are as they were, and its value stays where no later embed has its table. -/
theorem resolveRow_turn {before after : List Embed}
    (resolved : runner.resolveRow (before ++ embed :: after) base row session = (⟨row', none⟩, done))
    (last : ∀ later ∈ after, later.table ≠ embed.table) :
    ∃ reached start value mid,
      (∀ column, (∀ earlier ∈ before, earlier.table ≠ column) →
        reached.get? column = row.get? column) ∧
      (runner.resolveEmbed embed base reached).run start = (.ok value, mid) ∧
      row'.get? embed.table = some value := by
  induction before generalizing row session with
  | nil =>
    obtain ⟨value, mid, first, later⟩ := resolveRow_cons_ok resolved
    refine ⟨row, session, value, mid, fun _ _ => rfl, first, ?_⟩
    rw [get?_resolveRow later last, Row.get?_insert_self]
  | cons earlier before ih =>
    rw [List.cons_append] at resolved
    obtain ⟨replaced, mid, -, later⟩ := resolveRow_cons_ok resolved
    obtain ⟨reached, start, value, mid, unchanged, turn, held⟩ := ih later
    refine ⟨reached, start, value, mid, ?_, turn, held⟩
    intro column other
    obtain ⟨apart, other⟩ := List.forall_mem_cons.mp other
    rw [unchanged column other, Row.get?_insert_of_ne (Ne.symm apart)]

/-! ## Rows -/

/-- Every row that was worked on has its own result. -/
theorem eachRow_ok {work : Row → InSession σ (Progress Row)} {rows results : List Row}
    (worked : eachRow work rows session = (⟨results, none⟩, done)) :
    List.Forall₂ (fun row result => ∃ start mid, work row start = (⟨result, none⟩, mid)) rows
      results := by
  induction rows generalizing results session with
  | nil =>
    cases worked
    exact .nil
  | cons row rest ih =>
    rw [eachRow, InSession.bind_eq] at worked
    cases first : work row session with
    | mk progress mid =>
      rw [first] at worked
      obtain ⟨value, stopped⟩ := progress
      cases stopped with
      | some error => cases worked
      | none =>
        dsimp only at worked
        rw [InSession.bind_eq] at worked
        cases later : eachRow work rest mid with
        | mk others last =>
          rw [later] at worked
          obtain ⟨values, stopped⟩ := others
          cases worked
          exact .cons ⟨session, mid, first⟩ (ih later)

/-- One embed in one row. -/
theorem resolveRows_singleton {value : Json} {mid : Session σ}
    (first : (runner.resolveEmbed embed base row).run session = (.ok value, mid)) :
    runner.resolveRows [embed] base [row] session = (⟨[row.insert embed.table value], none⟩, mid) := by
  have one : runner.resolveRow [embed] base row session =
      (⟨row.insert embed.table value, none⟩, mid) := by
    rw [resolveRow_cons_of_ok first, resolveRow]
    rfl
  rw [resolveRows, eachRow, InSession.bind_eq, one]
  rfl

theorem Progress.of_result {α : Type} {progress : Progress α} {value : α}
    (succeeds : progress.result = .ok value) : progress = ⟨value, none⟩ := by
  obtain ⟨reached, stopped⟩ := progress
  cases stopped <;> cases succeeds
  rfl

/-- A row holds, under the table of an embed, what comes of the row when nothing else is embedded in
it, in whatever session. -/
def HoldsAlone (runner : Runner σ) (embed : Embed) (base : String) (row result : Row) : Prop :=
  ∃ value, result.get? embed.table = some value ∧
    ∀ alone, (runner.resolveRows [embed] base [row] alone).1.result =
      .ok [row.insert embed.table value]

/-- The main result. Of the embeds that name one table the last one is in the rows; and it is there
as if it had been resolved alone in the row as it was, if none of the columns that are consulted for
its key has the name of an earlier embed. -/
theorem resolveRows_holds_each (gives : runner.client.Gives answers) {rows results : List Row}
    (resolved : (runner.resolveRows embeds base rows session).1.result = .ok results) :
    List.Forall₂
      (fun row result => ∀ before embed after, embeds = before ++ embed :: after →
        (∀ later ∈ after, later.table ≠ embed.table) →
        (∀ earlier ∈ before, earlier.table ∉ embed.consulted runner.settings.convention row) →
        runner.HoldsAlone embed base row result)
      rows results := by
  have worked : runner.resolveRows embeds base rows session =
      (⟨results, none⟩, (runner.resolveRows embeds base rows session).2) :=
    Prod.ext (Progress.of_result resolved) rfl
  refine (eachRow_ok worked).imp ?_
  rintro row result ⟨start, mid, turn⟩ before embed after rfl last unread
  obtain ⟨reached, start, value, mid, unchanged, turn, held⟩ := resolveRow_turn turn last
  refine ⟨value, held, fun alone => ?_⟩
  -- The row that was reached has the columns that are consulted in the row as it was.
  have same : ∀ column ∈ embed.consulted runner.settings.convention row,
      reached.get? column = row.get? column := by
    intro column consulted
    refine unchanged column ?_
    rintro earlier present rfl
    exact unread earlier present consulted
  rw [resolveEmbed_congr same] at turn
  have value_alone : ((runner.resolveEmbed embed base row).run alone).1 = .ok value := by
    rw [steady_resolveEmbed gives embed base row alone start, turn]
  rw [resolveRows_singleton (Prod.ext value_alone rfl)]
  rfl

end Runner

/-! ## Listings, with their owner and their buyer -/

namespace Listings

/-- A client that finds every row it is asked for, and knows no more of it than its key. -/
def runner : Runner Unit :=
  ⟨.ofAnswers fun _ params => .ok [[("id", params.headD .null)]], .default⟩

def listing : Row := [("id", .int 1), ("owner_id", .int 3), ("buyer_id", .int 4)]

def owner : Embed := ⟨"users", some "owner_id", ["id"], []⟩

def buyer : Embed := ⟨"users", some "buyer_id", ["id"], []⟩

def tags : Embed := ⟨"tags", none, ["id"], []⟩

/-- A table that has the name of a column. -/
def ownerId : Embed := ⟨"owner_id", none, ["id"], []⟩

def start : Session Unit := ⟨(), []⟩

def user (key : Json) : Json := .object [("id", key)]

theorem gives : runner.client.Gives fun _ params => .ok [[("id", params.headD .null)]] :=
  fun _ _ => rfl

theorem owner_and_tags_held :
    runner.HoldsAlone owner "listings" listing
        ((listing.insert "users" (user (.int 3))).insert "tags" (user (.int 1))) ∧
      runner.HoldsAlone tags "listings" listing
        ((listing.insert "users" (user (.int 3))).insert "tags" (user (.int 1))) := by
  have resolved : (runner.resolveRows [owner, tags] "listings" [listing] start).1.result =
      .ok [(listing.insert "users" (user (.int 3))).insert "tags" (user (.int 1))] := rfl
  cases Runner.resolveRows_holds_each gives resolved with
  | cons each _ =>
    exact ⟨each [] owner [tags] rfl (by decide) (by decide),
      each [owner] tags [] rfl (by decide) (by decide +kernel)⟩

/-- The tables and the keys of two embeds of ids. -/
def pair? : Except Error Selection → Option ((String × Option String) × String × Option String)
  | .ok ⟨[], [⟨table, key, ["id"], []⟩, ⟨table', key', ["id"], []⟩]⟩ =>
    some ((table, key), (table', key'))
  | _ => none

theorem eq_ok_of_pair? {outcome : Except Error Selection} {table table' : String}
    {key key' : Option String} (pair : pair? outcome = some ((table, key), (table', key'))) :
    outcome = .ok ⟨[], [⟨table, key, ["id"], []⟩, ⟨table', key', ["id"], []⟩]⟩ := by
  unfold pair? at pair
  split at pair <;> cases pair
  rfl

theorem parse_owner_buyer :
    Selection.parse "users!owner_id(id), users!buyer_id(id)" = .ok ⟨[], [owner, buyer]⟩ :=
  eq_ok_of_pair? (by decide +kernel)

theorem parse_ownerId_owner :
    Selection.parse "owner_id(id), users!owner_id(id)" = .ok ⟨[], [ownerId, owner]⟩ :=
  eq_ok_of_pair? (by decide +kernel)

/-- The buyer replaces the owner, since both are users; and a table that is named like a column
replaces the key of the owner. -/
theorem owner_lost :
    runner.client.Gives (fun _ params => .ok [[("id", params.headD .null)]]) ∧
      Selection.parse "users!owner_id(id), users!buyer_id(id)" = .ok ⟨[], [owner, buyer]⟩ ∧
      (runner.resolveRows [owner, buyer] "listings" [listing] start).1.result =
        .ok [listing.insert "users" (user (.int 4))] ∧
      ¬ runner.HoldsAlone owner "listings" listing (listing.insert "users" (user (.int 4))) ∧
      Selection.parse "owner_id(id), users!owner_id(id)" = .ok ⟨[], [ownerId, owner]⟩ ∧
      (runner.resolveRows [ownerId, owner] "listings" [listing] start).1.result =
        .ok [(listing.insert "owner_id" (user (.int 1))).insert "users" (user (user (.int 1)))] ∧
      ¬ runner.HoldsAlone owner "listings" listing
        ((listing.insert "owner_id" (user (.int 1))).insert "users" (user (user (.int 1)))) := by
  have alone : (runner.resolveRows [owner] "listings" [listing] start).1.result =
      .ok [listing.insert "users" (user (.int 3))] := rfl
  refine ⟨gives, parse_owner_buyer, rfl, ?_, parse_ownerId_owner, rfl, ?_⟩
  all_goals
    rintro ⟨value, held, same⟩
    cases held
    cases alone.symm.trans (same start)

end Listings

end FluentSql
