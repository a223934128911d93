import FluentSql.Proofs.Embedding.Beside

/-!
# What embeds leave as it was

The work on rows goes through them in order, and through the embeds of each. It puts every embed
into its row and does nothing else, and it stops at the first embed that cannot be resolved.

Results:
1. `Row.Extends.insert`: one more embed in a row.
2. `Runner.resolveRow_stopped_iff`, `Runner.eachRow_stopped_iff`: where the work stops.
3. `Runner.resolveRows_frame`: what is left as it was, whether the work stops or not.
-/

namespace FluentSql

/-! ## Columns of a row -/

namespace Row

/-- The row with something set under each of the names: all columns of the row keep their places,
those with other names their values, and new columns follow in the order in which they were first
named. -/
structure Extends (names : List String) (row result : Row) : Prop where
  columns : result.keys = row.keys ++ (names.filter (· ∉ row.keys)).eraseDups
  values : ∀ column, column ∉ names → result.get? column = row.get? column

variable {row result : Row} {names : List String} {name : String} {value : Json}

theorem keys_insert_of_mem (present : name ∈ row.keys) (value : Json) :
    (row.insert name value).keys = row.keys := by
  induction row with
  | nil => cases present
  | cons field rest ih =>
    rw [insert]
    split
    · rfl
    · rename_i other
      rcases List.mem_cons.mp present with rfl | later
      · exact absurd rfl other
      · exact congrArg (field.1 :: ·) (ih later)

theorem keys_insert_of_not_mem (absent : name ∉ row.keys) (value : Json) :
    (row.insert name value).keys = row.keys ++ [name] := by
  induction row with
  | nil => rfl
  | cons field rest ih =>
    obtain ⟨other, later⟩ := not_or.mp (mt List.mem_cons.mpr absent)
    rw [insert, if_neg (Ne.symm other)]
    exact congrArg (field.1 :: ·) (ih later)

theorem Extends.none (row : Row) : row.Extends [] row := ⟨(List.append_nil _).symm, fun _ _ => rfl⟩

/-- The step lemma. -/
theorem Extends.insert (extends' : (row.insert name value).Extends names result) :
    row.Extends (name :: names) result := by
  obtain ⟨columns, values⟩ := extends'
  constructor
  · rw [columns]
    by_cases present : name ∈ row.keys
    · rw [keys_insert_of_mem present, List.filter_cons_of_neg (by simpa using present)]
    · have fresh : names.filter (· ∉ row.keys ++ [name]) =
          (names.filter (· ∉ row.keys)).filter (!· == name) := by
        rw [List.filter_filter]
        refine List.filter_congr fun column _ => ?_
        by_cases same : column = name <;> simp [same]
      rw [keys_insert_of_not_mem present, List.filter_cons_of_pos (by simpa using present),
        List.eraseDups_cons, fresh, List.append_assoc]
      rfl
  · intro column other
    obtain ⟨apart, later⟩ := not_or.mp (mt List.mem_cons.mpr other)
    rw [values column later, get?_insert_of_ne apart]

end Row

/-! ## One row -/

namespace Runner

variable {σ : Type} {runner : Runner σ} {embeds : List Embed} {base : String} {row partly : Row}
  {session done : Session σ} {error : Error}

/-- The run lemma. -/
theorem resolveRow_extends {result : Row}
    (resolved : runner.resolveRow embeds base row session = (⟨result, none⟩, done)) :
    row.Extends (embeds.map Embed.table) result := by
  induction embeds generalizing row session with
  | nil =>
    rw [resolveRow] at resolved
    cases resolved
    exact .none _
  | cons embed rest ih =>
    obtain ⟨value, mid, -, later⟩ := resolveRow_cons_ok resolved
    exact (ih later).insert

/-- The work on a row stops at an embed, with all embeds before it in the row. -/
theorem resolveRow_stopped_iff :
    runner.resolveRow embeds base row session = (⟨partly, some error⟩, done) ↔
      ∃ settled embed later mid, embeds = settled ++ embed :: later ∧
        runner.resolveRow settled base row session = (⟨partly, none⟩, mid) ∧
        (runner.resolveEmbed embed base partly).run mid = (.error error, done) := by
  induction embeds generalizing row session with
  | nil =>
    constructor
    · intro stopped
      rw [resolveRow] at stopped
      cases stopped
    · rintro ⟨settled, embed, later, mid, split, -⟩
      cases settled <;> cases split
  | cons first rest ih =>
    cases turn : (runner.resolveEmbed first base row).run session with
    | mk outcome reached =>
      cases outcome with
      | error fault =>
        have stops : runner.resolveRow (first :: rest) base row session =
            (⟨row, some fault⟩, reached) := by
          rw [resolveRow, InSession.bind_eq, turn]
          rfl
        rw [stops]
        constructor
        · rintro ⟨⟩
          exact ⟨[], first, rest, session, rfl, by rw [resolveRow]; rfl, turn⟩
        · rintro ⟨settled, embed, later, mid, split, before, fails⟩
          cases settled with
          | nil =>
            cases split
            rw [resolveRow] at before
            cases before
            rw [turn] at fails
            cases fails
            rfl
          | cons other settled =>
            -- The first embed would have been resolved.
            cases split
            obtain ⟨value, mid, found, -⟩ := resolveRow_cons_ok before
            rw [turn] at found
            cases found
      | ok value =>
        rw [resolveRow_cons_of_ok turn, ih]
        constructor
        · rintro ⟨settled, embed, later, mid, rfl, before, fails⟩
          exact ⟨first :: settled, embed, later, mid, rfl,
            (resolveRow_cons_of_ok turn).trans before, fails⟩
        · rintro ⟨settled, embed, later, mid, split, before, fails⟩
          cases settled with
          | nil =>
            cases split
            rw [resolveRow] at before
            cases before
            rw [turn] at fails
            cases fails
          | cons other settled =>
            cases split
            rw [resolveRow_cons_of_ok turn] at before
            exact ⟨settled, embed, later, mid, rfl, before, fails⟩

/-! ## All rows -/

section

variable {work : Row → InSession σ (Progress Row)} {rows reached : List Row}

theorem eachRow_cons_of_ok {rest : List Row} {result : Row} {mid : Session σ}
    (first : work row session = (⟨result, none⟩, mid)) :
    eachRow work (row :: rest) session =
      (⟨result :: (eachRow work rest mid).1.value, (eachRow work rest mid).1.stopped⟩,
        (eachRow work rest mid).2) := by
  rw [eachRow, InSession.bind_eq, first]
  rfl

theorem eachRow_cons_of_stopped {rest : List Row}
    (first : work row session = (⟨partly, some error⟩, done)) :
    eachRow work (row :: rest) session = (⟨partly :: rest, some error⟩, done) := by
  rw [eachRow, InSession.bind_eq, first]
  rfl

/-- The work on rows stops at a row, with all rows before it done and all rows after it untouched. -/
theorem eachRow_stopped_iff :
    eachRow work rows session = (⟨reached, some error⟩, done) ↔
      ∃ before row after results partly start, rows = before ++ row :: after ∧
        eachRow work before session = (⟨results, none⟩, start) ∧
        work row start = (⟨partly, some error⟩, done) ∧
        reached = results ++ partly :: after := by
  induction rows generalizing reached session with
  | nil =>
    constructor
    · rintro ⟨⟩
    · rintro ⟨before, row, after, results, partly, start, split, -⟩
      cases before <;> cases split
  | cons first rest ih =>
    cases turn : work first session with
    | mk progress mid =>
      rcases progress with ⟨value, stopped⟩
      cases stopped with
      | some fault =>
        rw [eachRow_cons_of_stopped turn]
        constructor
        · rintro ⟨⟩
          exact ⟨[], first, rest, [], value, session, rfl, rfl, turn, rfl⟩
        · rintro ⟨before, row, after, results, partly, start, split, worked, stops, rfl⟩
          cases before with
          | nil =>
            cases split
            cases worked
            rw [turn] at stops
            cases stops
            rfl
          | cons other before =>
            cases split
            rw [eachRow_cons_of_stopped turn] at worked
            cases worked
      | none =>
        rw [eachRow_cons_of_ok turn]
        constructor
        · intro stops
          cases later : eachRow work rest mid with
          | mk progress last =>
            rw [later] at stops
            rcases progress with ⟨values, stopped⟩
            cases stops
            obtain ⟨before, row, after, results, partly, start, rfl, worked, stops, rfl⟩ :=
              ih.mp later
            refine ⟨first :: before, row, after, value :: results, partly, start, rfl, ?_, stops, rfl⟩
            rw [eachRow_cons_of_ok turn, worked]
        · rintro ⟨before, row, after, results, partly, start, split, worked, stops, rfl⟩
          cases before with
          | nil =>
            cases split
            cases worked
            rw [turn] at stops
            cases stops
          | cons other before =>
            cases split
            rw [eachRow_cons_of_ok turn] at worked
            cases earlier : eachRow work before mid with
            | mk progress reached =>
              rw [earlier] at worked
              rcases progress with ⟨values, stopped⟩
              cases worked
              rw [ih.mpr ⟨before, row, after, values, partly, _, rfl, earlier, stops, rfl⟩]
              rfl

end

/-- Where the work on rows stops: at an embed of a row. The rows before it are complete, the row has
the embeds before it, and the rows after it are as they were. -/
inductive StopsAt (runner : Runner σ) (embeds : List Embed) (base : String) (rows : List Row)
    (session : Session σ) : List Row → Error → Session σ → Prop
  | embed {before after results : List Row} {row partly : Row} {settled later : List Embed}
      {embed : Embed} {start mid done : Session σ} {error : Error}
      (rows_eq : rows = before ++ row :: after) (embeds_eq : embeds = settled ++ embed :: later)
      (completed : runner.resolveRows embeds base before session = (⟨results, none⟩, start))
      (completed_extend : List.Forall₂ (Row.Extends (embeds.map Embed.table)) before results)
      (begun : runner.resolveRow settled base row start = (⟨partly, none⟩, mid))
      (begun_extends : row.Extends (settled.map Embed.table) partly)
      (fails : (runner.resolveEmbed embed base partly).run mid = (.error error, done)) :
      StopsAt runner embeds base rows session (results ++ partly :: after) error done

theorem resolveRows_extends {rows results : List Row}
    (resolved : runner.resolveRows embeds base rows session = (⟨results, none⟩, done)) :
    List.Forall₂ (Row.Extends (embeds.map Embed.table)) rows results :=
  (eachRow_ok resolved).imp fun _ _ ⟨_, _, turn⟩ => resolveRow_extends turn

/-- The main result. Where all embeds are resolved there are the same rows as before, and each has
its embeds added and is otherwise as it was. The work stops just where an embed cannot be resolved,
and then nothing has been done but what comes before this embed. -/
theorem resolveRows_frame (runner : Runner σ) (embeds : List Embed) (base : String)
    (rows : List Row) (session : Session σ) :
    (∀ results done, runner.resolveRows embeds base rows session = (⟨results, none⟩, done) →
      List.Forall₂ (Row.Extends (embeds.map Embed.table)) rows results) ∧
    ∀ reached error done,
      runner.resolveRows embeds base rows session = (⟨reached, some error⟩, done) ↔
        runner.StopsAt embeds base rows session reached error done := by
  refine ⟨fun results done resolved => resolveRows_extends resolved, fun reached error done => ?_⟩
  constructor
  · intro stopped
    obtain ⟨before, row, after, results, partly, start, split, worked, stops, rfl⟩ :=
      eachRow_stopped_iff.mp stopped
    obtain ⟨settled, embed, later, mid, parts, begun, fails⟩ := resolveRow_stopped_iff.mp stops
    exact .embed split parts worked (resolveRows_extends worked) begun (resolveRow_extends begun) fails
  · rintro ⟨split, parts, completed, -, begun, -, fails⟩
    have stops := resolveRow_stopped_iff.mpr ⟨_, _, _, _, parts, begun, fails⟩
    exact eachRow_stopped_iff.mpr ⟨_, _, _, _, _, _, split, completed, stops, rfl⟩

end Runner

/-! ## Listings, one of them with an owner who cannot be reached -/

namespace Listings

/-- A client that cannot reach the user 9. -/
def reachingOthers : Runner Unit :=
  ⟨.ofAnswers fun _ params =>
    match params with
    | [.number (.int 9)] => .error (.other "connection lost")
    | _ => .ok [[("id", params.headD .null)]], .default⟩

def ofLostOwner : Row := [("id", .int 2), ("owner_id", .int 9)]

/-- The rows when the work has stopped at the owner of the second. -/
def reached : List Row :=
  [(listing.insert "tags" (user (.int 1))).insert "users" (user (.int 3)),
    ofLostOwner.insert "tags" (user (.int 2)), listing]

/-- The session in which the work has stopped. -/
def stopped : Session Unit :=
  (reachingOthers.resolveRows [tags, owner] "listings" [listing, ofLostOwner, listing] start).2

theorem stopsAt_owner :
    reachingOthers.resolveRows [tags, owner] "listings" [listing, ofLostOwner, listing] start =
        (⟨reached, some (.other "connection lost")⟩, stopped) ∧
      reachingOthers.StopsAt [tags, owner] "listings" [listing, ofLostOwner, listing] start reached
        (.other "connection lost") stopped := by
  have stops : reachingOthers.resolveRows [tags, owner] "listings" [listing, ofLostOwner, listing]
      start = (⟨reached, some (.other "connection lost")⟩, stopped) := rfl
  exact ⟨stops, ((Runner.resolveRows_frame ..).2 _ _ _).mp stops⟩

end Listings

end FluentSql
