import FluentSql.Embedding.Resolve

/-!
# Two runners side by side

Two runners that name foreign keys alike log the same steps and send the same statements in the same
order, as long as they are answered alike. A relation between the works of two sessions that holds of
these parts, and that goes over to what is put together from them, holds of the embeds that both
resolve (`Paired.resolveRows`).
-/

namespace FluentSql

variable {σ σ' α β : Type}

/-- A relation between works in two sessions that goes over from parts to what is put together from
them. -/
structure Joint (related : {α : Type} → InSession σ α → InSession σ' α → Prop) : Prop where
  pure : ∀ {α : Type} (value : α), related (Pure.pure value) (Pure.pure value)
  bind : ∀ {α β : Type} {work : InSession σ α} {work' : InSession σ' α} {next : α → InSession σ β}
    {next' : α → InSession σ' β}, related work work' →
    (∀ value, related (next value) (next' value)) → related (work >>= next) (work' >>= next')

namespace Joint

variable {related : {α : Type} → InSession σ α → InSession σ' α → Prop}

/-- Works that may fail go on only where they succeeded. -/
theorem bindRun (joint : Joint related) {work : Run σ α} {work' : Run σ' α} {next : α → Run σ β}
    {next' : α → Run σ' β} (first : related work.run work'.run)
    (later : ∀ value, related (next value).run (next' value).run) :
    related (work >>= next).run (work' >>= next').run := by
  rw [ExceptT.run_bind, ExceptT.run_bind]
  refine joint.bind first ?_
  intro outcome
  cases outcome with
  | ok value => exact later value
  | error error => exact joint.pure _

/-- Works that cannot fail, as parts of works that may. -/
theorem lift (joint : Joint related) {work : InSession σ α} {work' : InSession σ' α}
    (first : related work work') :
    related (liftM work : Run σ α).run (liftM work' : Run σ' α).run := by
  show related (work >>= fun value => Pure.pure (Except.ok value))
    (work' >>= fun value => Pure.pure (Except.ok value))
  exact joint.bind first fun _ => joint.pure _

theorem ofExcept (joint : Joint related) (outcome : Except Error α) :
    related (ExceptT.mk (Pure.pure outcome) : Run σ α).run
      (ExceptT.mk (Pure.pure outcome) : Run σ' α).run :=
  joint.pure outcome

theorem eachRow (joint : Joint related) {work : Row → InSession σ (Progress Row)}
    {work' : Row → InSession σ' (Progress Row)} (each : ∀ row, related (work row) (work' row))
    (rows : List Row) : related (Runner.eachRow work rows) (Runner.eachRow work' rows) := by
  induction rows with
  | nil => exact joint.pure _
  | cons row rest ih =>
    unfold Runner.eachRow
    refine joint.bind (each row) ?_
    intro first
    split
    · exact joint.pure _
    · exact joint.bind ih fun _ => joint.pure _

end Joint

/-- The event tells of a step of a run, or of its failure. Those of statements, of warnings before
writes and of rollbacks are apart. -/
def Event.isStep : Event → Bool
  | .chainFailed .. | .keyMissing .. | .probeFailed .. | .lateProbe .. => true
  | .statement .. | .unscopedWrite .. | .rollbackFailed .. => false

/-- Such a relation, for two runners that name foreign keys alike: it holds of logging the event of a
step, and of sending the statements for embeds of a kind, which the embeds inside them are of, too.
-/
structure Paired (related : {α : Type} → InSession σ α → InSession σ' α → Prop)
    (runner : Runner σ) (runner' : Runner σ') (kind : Embed → Prop) : Prop extends Joint related where
  convention : runner'.settings.convention = runner.settings.convention
  logs : ∀ event, event.isStep = true → related (logEvent event) (logEvent event)
  sends : ∀ embed, kind embed → ∀ column value ending fragment,
    ending = "" ∨ ending = " LIMIT 1" → embed.statement column value ending = .ok fragment →
    related (runner.fetch fragment).run (runner'.fetch fragment).run
  inner : ∀ embed, kind embed → ∀ nested ∈ embed.embeds, kind nested

namespace Paired

variable {related : {α : Type} → InSession σ α → InSession σ' α → Prop} {runner : Runner σ}
  {runner' : Runner σ'} {kind : Embed → Prop} {complete : Runner.Completion σ}
  {complete' : Runner.Completion σ'} {embed : Embed}

/-! ## Embeds -/

theorem fetchRelated (paired : Paired related runner runner' kind) (member : kind embed)
    (completes : ∀ rows, related (complete rows).run (complete' rows).run) {ending : String}
    (known : ending = "" ∨ ending = " LIMIT 1") (column : String) (value : Json) :
    related (runner.fetchRelated complete (embed.statement column value ending)).run
      (runner'.fetchRelated complete' (embed.statement column value ending)).run := by
  unfold Runner.fetchRelated
  cases written : embed.statement column value ending with
  | error error => exact paired.pure _
  | ok fragment =>
    have sent : related (runner.fetch fragment).run (runner'.fetch fragment).run :=
      paired.sends embed member _ _ _ fragment known written
    show related (runner.fetch fragment >>= complete).run (runner'.fetch fragment >>= complete').run
    exact paired.bindRun sent completes

theorem fetchByKey (paired : Paired related runner runner' kind) (member : kind embed)
    (completes : ∀ rows, related (complete rows).run (complete' rows).run) (key : Json) :
    related (runner.fetchByKey complete embed key).run (runner'.fetchByKey complete' embed key).run := by
  unfold Runner.fetchByKey
  rw [paired.convention]
  refine paired.bindRun ?_ fun _ => paired.pure _
  exact paired.fetchRelated member completes (.inr rfl) _ key

theorem probe (paired : Paired related runner runner' kind) (member : kind embed)
    (completes : ∀ rows, related (complete rows).run (complete' rows).run) (base : String)
    (key : Json) (failed : Nat) (columns : List String) :
    related (runner.probe complete embed base key failed columns)
      (runner'.probe complete' embed base key failed columns) := by
  induction columns generalizing failed with
  | nil => exact paired.pure _
  | cons column rest ih =>
    unfold Runner.probe
    refine paired.bind (paired.fetchRelated member completes (.inl rfl) column key) ?_
    intro outcome
    cases outcome with
    | ok rows =>
      dsimp only
      split
      · exact paired.bind (paired.logs _ rfl) fun _ => paired.pure _
      · exact paired.bind (paired.pure _) fun _ => paired.pure _
    | error error => exact paired.bind (paired.logs _ rfl) fun _ => ih (failed + 1)

theorem findKey (paired : Paired related runner runner' kind) (embed : Embed) (row : Row) :
    related (runner.findKey embed row) (runner'.findKey embed row) := by
  unfold Runner.findKey
  rw [paired.convention]
  split
  · exact paired.pure _
  · split
    · exact paired.pure _
    · exact paired.bind (paired.logs _ rfl) fun _ => paired.pure _

theorem embedValue (paired : Paired related runner runner' kind) (member : kind embed)
    (completes : ∀ rows, related (complete rows).run (complete' rows).run) (base : String)
    (row : Row) :
    related (runner.embedValue complete embed base row).run
      (runner'.embedValue complete' embed base row).run := by
  unfold Runner.embedValue
  rw [paired.convention]
  refine paired.bindRun (paired.lift (paired.findKey embed row)) ?_
  intro found
  cases found with
  | some key => exact paired.fetchByKey member completes key
  | none =>
    dsimp only
    split
    · exact paired.pure _
    · exact paired.lift (paired.probe member completes base _ 0 _)

mutual

/-- Resolving an embed of the kind, and with it all that is inside it. -/
theorem resolveEmbed (paired : Paired related runner runner' kind) (embed : Embed)
    (member : kind embed) (base : String) (row : Row) :
    related (runner.resolveEmbed embed base row).run (runner'.resolveEmbed embed base row).run := by
  cases embed with
  | mk table foreignKey columns embeds =>
    rw [Runner.resolveEmbed, Runner.resolveEmbed]
    refine paired.embedValue member ?_ base row
    intro rows
    have each := paired.eachRow (paired.resolveRow embeds (paired.inner _ member) table) rows
    exact paired.bind each fun _ => paired.pure _

theorem resolveRow (paired : Paired related runner runner' kind) (embeds : List Embed)
    (members : ∀ embed ∈ embeds, kind embed) (base : String) (row : Row) :
    related (runner.resolveRow embeds base row) (runner'.resolveRow embeds base row) := by
  cases embeds with
  | nil =>
    rw [Runner.resolveRow, Runner.resolveRow]
    exact paired.pure _
  | cons embed rest =>
    rw [Runner.resolveRow, Runner.resolveRow]
    refine paired.bind (paired.resolveEmbed embed (members embed List.mem_cons_self) base row) ?_
    intro outcome
    cases outcome with
    | error error => exact paired.pure _
    | ok value =>
      have others := fun other present => members other (List.mem_cons_of_mem embed present)
      exact paired.resolveRow rest others base _

end

/-- Resolving embeds of the kind in any rows. -/
theorem resolveRows (paired : Paired related runner runner' kind) (embeds : List Embed)
    (members : ∀ embed ∈ embeds, kind embed) (base : String) (rows : List Row) :
    related (runner.resolveRows embeds base rows) (runner'.resolveRows embeds base rows) :=
  paired.eachRow (paired.resolveRow embeds members base) rows

end Paired

end FluentSql
