import FluentSql.Proofs.Run.Course
import FluentSql.Proofs.Run.Paired

/-!
# Plans of two runners side by side

A run is a warning, the main statement, the embeds and the count. What holds of these parts for two
runners, and goes over to what is put together from them, holds of their runs (`Paired.run`,
`Paired.runChain`).
-/

namespace FluentSql

variable {σ σ' : Type}

namespace Runner

/-- The data of a plan that selects. -/
def selectedData (runner : Runner σ) (plan : Plan) : Run σ (Option Json) :=
  match plan.statement with
  | some fragment => do
    let rows ← runner.fetch fragment
    runner.shape plan rows
  | none => pure none

theorem runSelect_eq_bind (runner : Runner σ) (plan : Plan) :
    runner.runSelect plan = (do
      let data ← runner.selectedData plan
      let count ← runner.countAll plan
      pure (.ok data count)) := by
  unfold runSelect selectedData countAll
  cases plan.statement <;> cases plan.countStatement <;> simp

/-- The warning before a write, if it is due. -/
def warning (runner : Runner σ) (plan : Plan) : InSession σ Unit :=
  if runner.warns plan then logEvent (.unscopedWrite plan.table.name plan.operation) else pure ()

theorem runWrite_eq_bind (runner : Runner σ) (plan : Plan) :
    runner.runWrite plan = (do
      (runner.warning plan : InSession σ Unit)
      let rows ← runner.mainRows plan
      let data ← runner.shape plan rows
      pure (.ok data none)) := by
  unfold runWrite warning mainRows
  cases runner.warns plan <;> cases plan.statement <;> rfl

/-- The response to an outcome; a failure is logged. -/
def conclude (plan : Plan) : Except Error Response → InSession σ Response
  | .ok response => pure response
  | .error error => do
    logEvent (.chainFailed plan.table.name plan.operation error)
    pure (.fail error)

theorem run_eq_bind (runner : Runner σ) (plan : Plan) :
    runner.run plan =
      (if plan.operation.isWrite then runner.runWrite plan else runner.runSelect plan).run >>=
        conclude plan := by
  unfold run
  refine congrArg (_ >>= ·) (funext fun outcome => ?_)
  cases outcome <;> rfl

/-- What a write does with the answer to its statement. -/
def afterMain (runner : Runner σ) (plan : Plan) (answer : Except Error (List Row)) :
    InSession σ Response := do
  let outcome ← (do
    let rows ← ExceptT.mk (pure answer)
    let data ← runner.shape plan rows
    pure (Response.ok data none) : Run σ Response).run
  conclude plan outcome

/-- A write is its warning, its statement, and what is done with the answer. -/
theorem run_of_write (runner : Runner σ) {plan : Plan} (writes : plan.operation.isWrite = true)
    {statement : Fragment} (sends : plan.statement = some statement) :
    runner.run plan = (do
      runner.warning plan
      let answer ← (runner.fetch statement).run
      runner.afterMain plan answer) := by
  rw [run_eq_bind, if_pos writes, runWrite_eq_bind, mainRows, sends]
  funext session
  rfl

end Runner

/-- Where two runners warn of the same plans, it is enough to look at the event. -/
theorem Joint.warning {related : {α : Type} → InSession σ α → InSession σ' α → Prop}
    (joint : Joint related) {runner : Runner σ} {runner' : Runner σ'} {plan : Plan}
    (same : runner'.warns plan = runner.warns plan)
    (logs : related (logEvent (.unscopedWrite plan.table.name plan.operation))
      (logEvent (.unscopedWrite plan.table.name plan.operation))) :
    related (runner.warning plan) (runner'.warning plan) := by
  unfold Runner.warning
  rw [same]
  split
  · exact logs
  · exact joint.pure _

namespace Paired

variable {related : {α : Type} → InSession σ α → InSession σ' α → Prop} {runner : Runner σ}
  {runner' : Runner σ'} {kind : Embed → Prop} {plan : Plan}

theorem shape (paired : Paired related runner runner' kind)
    (members : ∀ embed ∈ plan.selection.embeds, kind embed) (rows : List Row) :
    related (runner.shape plan rows).run (runner'.shape plan rows).run := by
  unfold Runner.shape
  refine paired.bindRun (paired.ofExcept _) fun kept => ?_
  refine paired.bindRun ?_ fun _ => paired.pure _
  exact paired.bind (paired.resolveRows _ members _ kept) fun _ => paired.pure _

/-- What two runners are asked for a plan is related: its statements, and its embeds, which are of
the kind. -/
structure Asks (related : {α : Type} → InSession σ α → InSession σ' α → Prop)
    (runner : Runner σ) (runner' : Runner σ') (kind : Embed → Prop) (plan : Plan) : Prop where
  members : ∀ embed ∈ plan.selection.embeds, kind embed
  main : ∀ fragment ∈ plan.statement,
    related (runner.fetch fragment).run (runner'.fetch fragment).run
  counts : ∀ fragment ∈ plan.countStatement,
    related (runner.fetch fragment).run (runner'.fetch fragment).run
  warning : related (runner.warning plan) (runner'.warning plan)

theorem selectedData (paired : Paired related runner runner' kind)
    (asks : Asks related runner runner' kind plan) :
    related (runner.selectedData plan).run (runner'.selectedData plan).run := by
  unfold Runner.selectedData
  split
  · rename_i fragment sends
    exact paired.bindRun (asks.main fragment sends) fun rows => paired.shape asks.members rows
  · exact paired.pure _

theorem mainRows (paired : Paired related runner runner' kind)
    (asks : Asks related runner runner' kind plan) :
    related (runner.mainRows plan).run (runner'.mainRows plan).run := by
  unfold Runner.mainRows
  split
  · rename_i fragment sends
    exact asks.main fragment sends
  · exact paired.pure _

theorem countAll (paired : Paired related runner runner' kind)
    (asks : Asks related runner runner' kind plan) :
    related (runner.countAll plan).run (runner'.countAll plan).run := by
  unfold Runner.countAll
  split
  · rename_i fragment counts
    rw [map_eq_pure_bind, map_eq_pure_bind]
    unfold Runner.fetchCount
    refine paired.bindRun ?_ fun _ => paired.pure _
    exact paired.bindRun (asks.counts fragment counts) fun _ => paired.ofExcept _
  · exact paired.pure _

theorem conclude (paired : Paired related runner runner' kind) (plan : Plan)
    (outcome : Except Error Response) :
    related (Runner.conclude plan outcome) (Runner.conclude plan outcome) := by
  cases outcome with
  | ok response => exact paired.pure _
  | error error => exact paired.bind (paired.logs _ rfl) fun _ => paired.pure _

theorem afterMain (paired : Paired related runner runner' kind)
    (members : ∀ embed ∈ plan.selection.embeds, kind embed) (answer : Except Error (List Row)) :
    related (runner.afterMain plan answer) (runner'.afterMain plan answer) := by
  unfold Runner.afterMain
  refine paired.bind ?_ (paired.conclude plan)
  refine paired.bindRun (paired.ofExcept answer) fun rows => ?_
  exact paired.bindRun (paired.shape members rows) fun _ => paired.pure _

theorem run (paired : Paired related runner runner' kind)
    (asks : Asks related runner runner' kind plan) :
    related (runner.run plan) (runner'.run plan) := by
  rw [Runner.run_eq_bind, Runner.run_eq_bind]
  refine paired.bind ?_ (paired.conclude plan)
  split
  · rw [Runner.runWrite_eq_bind, Runner.runWrite_eq_bind]
    refine paired.bindRun (paired.lift asks.warning) fun _ => ?_
    refine paired.bindRun (paired.mainRows asks) fun rows => ?_
    exact paired.bindRun (paired.shape asks.members rows) fun _ => paired.pure _
  · rw [Runner.runSelect_eq_bind, Runner.runSelect_eq_bind]
    refine paired.bindRun (paired.selectedData asks) fun data => ?_
    exact paired.bindRun (paired.countAll asks) fun _ => paired.pure _

/-- A chain that has no plan is answered at once. -/
theorem runChain (paired : Paired related runner runner' kind) {chain : Chain}
    (asks : ∀ plan, chain.plan = .ok plan → Asks related runner runner' kind plan) :
    related (runner.runChain chain) (runner'.runChain chain) := by
  unfold Runner.runChain
  cases planned : chain.plan with
  | ok plan => exact paired.run (asks plan planned)
  | error error => exact paired.pure _

end Paired

end FluentSql
