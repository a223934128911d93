import FluentSql.Proofs.Embedding.Frame

/-!
# Rows and embeds in another order

Rows are resolved one by one, and so are the embeds of a row, but what was done before counts only
where an embed is put into a column that another one consults. Where this cannot be, rows and embeds
may be given in any order.

Results:
1. `Agree.mapM_perm`: a step on the items of a list in another order.
2. `Runner.eachRow_result`: every row comes out as if it stood alone.
3. `Runner.get?_of_resolved`, `Runner.exists_resolved`: so does every independent embed.
4. `Runner.resolveRows_exchange`: rows and independent embeds in another order.
-/

namespace FluentSql

/-! ## Outcomes that agree -/

/-- Two runs that both fail, or succeed with values that are related. -/
inductive Agree {ε α β : Type} (related : α → β → Prop) : Except ε α → Except ε β → Prop
  | error (error error' : ε) : Agree related (.error error) (.error error')
  | ok {value : α} {value' : β} : related value value' → Agree related (.ok value) (.ok value')

namespace Agree

variable {ε α β γ δ : Type} {related : α → β → Prop} {paired : γ → δ → Prop} {one : Except ε α}
  {other : Except ε β}

theorem same (outcome : Except ε α) : Agree Eq outcome outcome := by
  cases outcome with
  | error error => exact .error error error
  | ok value => exact .ok rfl

theorem trans {last : Except ε γ} {related' : β → γ → Prop} {both : α → γ → Prop}
    (first : Agree related one other) (second : Agree related' other last)
    (composed : ∀ {value value' value''}, related value value' → related' value' value'' →
      both value value'') : Agree both one last := by
  cases first with
  | error error =>
    cases second with
    | error _ error' => exact .error error error'
  | ok pair =>
    cases second with
    | ok pair' => exact .ok (composed pair pair')

theorem bind {next : α → Except ε γ} {next' : β → Except ε δ} (first : Agree related one other)
    (later : ∀ value value', related value value' → Agree paired (next value) (next' value')) :
    Agree paired (one >>= next) (other >>= next') := by
  cases first with
  | error error error' => exact .error error error'
  | ok pair => exact later _ _ pair

/-- Two steps on the items of a list. -/
theorem mapM {step : γ → Except ε α} {step' : γ → Except ε β} {items : List γ}
    (each : ∀ item ∈ items, Agree related (step item) (step' item)) :
    Agree (List.Forall₂ related) (items.mapM step) (items.mapM step') := by
  induction items with
  | nil => exact .ok .nil
  | cons item rest ih =>
    obtain ⟨first, others⟩ := List.forall_mem_cons.mp each
    rw [List.mapM_cons, List.mapM_cons]
    refine first.bind fun value value' pair => (ih others).bind fun values values' pairs => ?_
    exact .ok (.cons pair pairs)

/-- A step on the items of a list in another order: every item keeps its own result. -/
theorem mapM_perm {step : α → Except ε β} {items items' : List α} (perm : items.Perm items') :
    Agree (fun results results' => (items.zip results).Perm (items'.zip results'))
      (items.mapM step) (items'.mapM step) := by
  induction perm with
  | nil => exact .ok (List.Perm.refl _)
  | cons item _ ih =>
    rw [List.mapM_cons, List.mapM_cons]
    refine (same (step item)).bind ?_
    rintro result _ rfl
    exact ih.bind fun _ _ rest => .ok (rest.cons (item, result))
  | swap first second rest =>
    simp only [List.mapM_cons]
    cases step first with
    | error error =>
      cases step second with
      | error error' => exact .error error' error
      | ok => exact .error error error
    | ok result =>
      cases step second with
      | error error => exact .error error error
      | ok result' =>
        cases rest.mapM step with
        | error error => exact .error error error
        | ok results => exact .ok (List.Perm.swap _ _ _)
  | trans _ _ ih ih' => exact ih.trans ih' List.Perm.trans

end Agree

/-! ## Independent embeds -/

/-- Two rows have the same values in all columns. -/
def Row.SameValues (row row' : Row) : Prop := ∀ column, row.get? column = row'.get? column

/-- No embed is put into the primary key, or where another one is put or looks for its key. -/
structure Independent (convention : NamingConvention) (embeds : List Embed) : Prop where
  keyless : ∀ embed ∈ embeds, embed.table ≠ convention.primaryKey
  apart : embeds.Pairwise fun embed other => embed.table ≠ other.table ∧
    embed.table ∉ other.keyColumns convention ∧ other.table ∉ embed.keyColumns convention

theorem Independent.perm {convention : NamingConvention} {embeds embeds' : List Embed}
    (independent : Independent convention embeds) (perm : embeds.Perm embeds') :
    Independent convention embeds' where
  keyless embed listed := independent.keyless embed (perm.mem_iff.mpr listed)
  apart := perm.pairwise independent.apart fun ⟨tables, ahead, behind⟩ => ⟨tables.symm, behind, ahead⟩

theorem Row.mem_of_mem_searched {row : Row} {column : String} {columns : List String}
    (present : column ∈ row.searched columns) : column ∈ columns := by
  induction columns with
  | nil => cases present
  | cons first rest ih =>
    rw [searched] at present
    split at present
    · exact List.mem_cons.mpr (.inl (List.mem_singleton.mp present))
    · rcases List.mem_cons.mp present with rfl | later
      · exact List.mem_cons_self
      · exact List.mem_cons_of_mem _ (ih later)

/-- An embed does not consult the column of another one that keeps apart. -/
theorem Embed.ne_of_consulted {convention : NamingConvention} {embed other : Embed} {row : Row}
    {column : String} (consulted : column ∈ embed.consulted convention row)
    (keyless : other.table ≠ convention.primaryKey)
    (apart : other.table ∉ embed.keyColumns convention) : column ≠ other.table := by
  rintro rfl
  rcases List.mem_append.mp (Row.mem_of_mem_searched consulted) with key | primary
  · exact apart key
  · exact keyless (List.mem_singleton.mp primary)

namespace Runner

variable {σ : Type} {runner : Runner σ} {answers : String → List Json → Except Error (List Row)}
  {embeds : List Embed} {embed : Embed} {base : String} {row row' : Row} {session done : Session σ}

/-- Every row comes out as if it stood alone. -/
theorem eachRow_result {work : Row → InSession σ (Progress Row)} (steady : ∀ row, Steady (work row))
    (alone : Session σ) (rows : List Row) (session : Session σ) :
    (eachRow work rows session).1.result = rows.mapM fun row => (work row alone).1.result := by
  induction rows generalizing session with
  | nil => rfl
  | cons row rest ih =>
    rw [List.mapM_cons, steady row alone session]
    cases first : work row session with
    | mk progress mid =>
      rcases progress with ⟨value, stopped⟩
      cases stopped with
      | some error =>
        rw [eachRow_cons_of_stopped first]
        rfl
      | none =>
        have own : (Progress.mk value none).result = .ok value := rfl
        rw [eachRow_cons_of_ok first, own, ok_bind, ← ih mid]
        rcases (eachRow work rest mid).1 with ⟨values, _ | error⟩ <;> rfl

/-- Every independent embed comes out as if it stood alone. -/
theorem get?_of_resolved (gives : runner.client.Gives answers)
    (independent : Independent runner.settings.convention embeds)
    (resolved : runner.resolveRow embeds base row session = (⟨row', none⟩, done))
    (alone : Session σ) (listed : embed ∈ embeds) :
    ∃ value, ((runner.resolveEmbed embed base row).run alone).1 = .ok value ∧
      row'.get? embed.table = some value := by
  obtain ⟨before, after, rfl⟩ := List.append_of_mem listed
  obtain ⟨-, behind, ahead⟩ := List.pairwise_append.mp independent.apart
  have last : ∀ later ∈ after, later.table ≠ embed.table := fun later present =>
    ((List.pairwise_cons.mp behind).1 later present).1.symm
  obtain ⟨reached, start, value, mid, unchanged, turn, held⟩ := resolveRow_turn resolved last
  have same : ∀ column ∈ embed.consulted runner.settings.convention row,
      reached.get? column = row.get? column := by
    intro column consulted
    refine unchanged column fun earlier present => (Embed.ne_of_consulted consulted ?_ ?_).symm
    · exact independent.keyless earlier (List.mem_append_left _ present)
    · exact (ahead earlier present embed List.mem_cons_self).2.1
  rw [resolveEmbed_congr same] at turn
  refine ⟨value, ?_, held⟩
  rw [steady_resolveEmbed gives embed base row alone start, turn]

/-- If each of several independent embeds can be resolved when it stands alone, all of them can. -/
theorem exists_resolved (gives : runner.client.Gives answers)
    (independent : Independent runner.settings.convention embeds) {alone : Session σ}
    (each : ∀ embed ∈ embeds, ∃ value, ((runner.resolveEmbed embed base row).run alone).1 = .ok value)
    (session : Session σ) :
    ∃ row' done, runner.resolveRow embeds base row session = (⟨row', none⟩, done) := by
  induction embeds generalizing row session with
  | nil => exact ⟨row, session, by rw [resolveRow]; rfl⟩
  | cons embed rest ih =>
    obtain ⟨⟨value, found⟩, others⟩ := List.forall_mem_cons.mp each
    obtain ⟨apart, within⟩ := List.pairwise_cons.mp independent.apart
    obtain ⟨keyless, keylessRest⟩ := List.forall_mem_cons.mp independent.keyless
    rw [steady_resolveEmbed gives embed base row alone session] at found
    rw [resolveRow_cons_of_ok (Prod.ext found rfl)]
    refine ih ⟨keylessRest, within⟩ (fun other listed => ?_) _
    have same : ∀ column ∈ other.consulted runner.settings.convention row,
        (row.insert embed.table value).get? column = row.get? column := fun column consulted =>
      Row.get?_insert_of_ne (Embed.ne_of_consulted consulted keyless (apart other listed).2.1) _ _
    rw [resolveEmbed_congr same]
    exact others other listed

/-! ## Another order -/

section

variable (gives : runner.client.Gives answers) {embeds' : List Embed}
  (independent : Independent runner.settings.convention embeds) (perm : embeds.Perm embeds')

include gives independent perm

theorem resolveRow_of_perm {result : Row}
    (resolved : runner.resolveRow embeds base row session = (⟨result, none⟩, done))
    (session' : Session σ) :
    ∃ result' done', runner.resolveRow embeds' base row session' = (⟨result', none⟩, done') ∧
      result.SameValues result' := by
  have values (embed : Embed) (listed : embed ∈ embeds) :
      ∃ value, ((runner.resolveEmbed embed base row).run session).1 = .ok value ∧
        result.get? embed.table = some value :=
    get?_of_resolved gives independent resolved session listed
  have each (embed : Embed) (listed : embed ∈ embeds') :
      ∃ value, ((runner.resolveEmbed embed base row).run session).1 = .ok value :=
    (values embed (perm.mem_iff.mpr listed)).imp fun _ found => found.1
  obtain ⟨result', done', resolved'⟩ :=
    exists_resolved gives (independent.perm perm) each session'
  refine ⟨result', done', resolved', fun column => ?_⟩
  by_cases named : ∃ embed ∈ embeds, embed.table = column
  · obtain ⟨embed, listed, rfl⟩ := named
    obtain ⟨value, found, held⟩ := values embed listed
    obtain ⟨value', found', held'⟩ := get?_of_resolved gives (independent.perm perm) resolved'
      session (perm.mem_iff.mp listed)
    cases found.symm.trans found'
    rw [held, held']
  · have other : ∀ embed ∈ embeds, embed.table ≠ column := fun embed listed same =>
      named ⟨embed, listed, same⟩
    rw [get?_resolveRow resolved other,
      get?_resolveRow resolved' fun embed listed => other embed (perm.mem_iff.mpr listed)]

/-- Independent embeds in another order. -/
theorem resolveRow_exchange (base : String) (row : Row) (session session' : Session σ) :
    Agree Row.SameValues (runner.resolveRow embeds base row session).1.result
      (runner.resolveRow embeds' base row session').1.result := by
  cases first : runner.resolveRow embeds base row session with
  | mk progress done =>
    rcases progress with ⟨result, _ | error⟩
    · obtain ⟨result', done', resolved', same⟩ :=
        resolveRow_of_perm gives independent perm first session'
      rw [resolved']
      exact .ok same
    · cases second : runner.resolveRow embeds' base row session' with
      | mk progress' done' =>
        rcases progress' with ⟨result', _ | error'⟩
        · -- The first order would have succeeded, too.
          obtain ⟨_, _, resolved, -⟩ :=
            resolveRow_of_perm gives (independent.perm perm) perm.symm second session
          cases first.symm.trans resolved
        · exact .error error error'

end

theorem steady_resolveRow (gives : runner.client.Gives answers) (embeds : List Embed) (base : String)
    (row : Row) : Steady (runner.resolveRow embeds base row) :=
  (steady_covers gives).paired.resolveRow embeds (fun _ _ => trivial) base row

/-- The main result, for a client that is asked in any session. Rows in another order come to the same
rows in that order, each with its own embeds. Independent embeds in another order come to rows with
the same values. In both cases it does not depend on the order whether there is an error. -/
theorem resolveRows_exchange (gives : runner.client.Gives answers) (base : String) (rows : List Row)
    (session session' : Session σ) :
    (∀ embeds rows', rows.Perm rows' →
      Agree (fun results results' => (rows.zip results).Perm (rows'.zip results'))
        (runner.resolveRows embeds base rows session).1.result
        (runner.resolveRows embeds base rows' session').1.result) ∧
    ∀ embeds embeds', Independent runner.settings.convention embeds → embeds.Perm embeds' →
      Agree (List.Forall₂ Row.SameValues) (runner.resolveRows embeds base rows session).1.result
        (runner.resolveRows embeds' base rows session').1.result := by
  have each (embeds : List Embed) (rows : List Row) (now : Session σ) :
      (runner.resolveRows embeds base rows now).1.result =
        rows.mapM fun row => (runner.resolveRow embeds base row session).1.result :=
    eachRow_result (steady_resolveRow gives embeds base) session rows now
  constructor
  · intro embeds rows' perm
    rw [each, each]
    exact .mapM_perm perm
  · intro embeds embeds' independent perm
    rw [each, each]
    exact .mapM fun row _ => resolveRow_exchange gives independent perm base row session session

end Runner

/-! ## Listings in another order -/

namespace Listings

def second : Row := [("id", .int 2), ("owner_id", .int 3)]

theorem independent : Independent .default [owner, tags] where
  keyless := by decide
  apart := by decide +kernel

/-- The rows with their owners and their tags. -/
def resolved : List Row :=
  [(listing.insert "users" (user (.int 3))).insert "tags" (user (.int 1)),
    (second.insert "users" (user (.int 3))).insert "tags" (user (.int 2))]

theorem exchanged :
    (runner.resolveRows [owner, tags] "listings" [listing, second] start).1.result = .ok resolved ∧
      Agree (fun results results' =>
          ([listing, second].zip results).Perm ([second, listing].zip results'))
        (runner.resolveRows [owner, tags] "listings" [listing, second] start).1.result
        (runner.resolveRows [owner, tags] "listings" [second, listing] start).1.result ∧
      Agree (List.Forall₂ Row.SameValues)
        (runner.resolveRows [owner, tags] "listings" [listing, second] start).1.result
        (runner.resolveRows [tags, owner] "listings" [listing, second] start).1.result := by
  obtain ⟨rows, embeds⟩ :=
    Runner.resolveRows_exchange gives "listings" [listing, second] start start
  have perm : [owner, tags].Perm [tags, owner] := List.Perm.swap _ _ _
  exact ⟨rfl, rows _ _ (List.Perm.swap _ _ _), embeds _ _ independent perm⟩

end Listings

end FluentSql
