import FluentSql.Proofs.Run.PairedRun

/-!
# Clients of which only a part is seen

A client may keep more in its state than its answers depend on, such as a record of what it is asked.
Whoever sees the rest of the state only sees a client that answers alike, and runs that come to the
same (`Viewed.run`, `Viewed.runChain`).
-/

namespace FluentSql

variable {σ σ' α : Type} {view : σ → σ'}

/-- The session in which a part of the client's state is seen. -/
def Session.viewed (view : σ → σ') (session : Session σ) : Session σ' :=
  ⟨view session.client, session.events⟩

/-- The client answers as the other one does in the state that is seen of it. -/
def Client.SeenAs (client : Client σ) (view : σ → σ') (other : Client σ') : Prop :=
  ∀ request state, other.answer request (view state) =
    ((client.answer request state).1, view (client.answer request state).2)

/-- The work comes to the same where only a part of the client's state is seen. -/
def Viewed (view : σ → σ') (work : InSession σ α) (seen : InSession σ' α) : Prop :=
  ∀ session, seen (session.viewed view) = ((work session).1, (work session).2.viewed view)

namespace Viewed

variable {client : Client σ} {other : Client σ'}

theorem joint (view : σ → σ') :
    Joint fun (work : InSession σ _) (seen : InSession σ' _) => Viewed view work seen where
  pure _ _ := rfl
  bind first later session := by
    rw [InSession.bind_eq, InSession.bind_eq, first session]
    exact later _ _

theorem log (view : σ → σ') (event : Event) :
    Viewed view (logEvent event) (logEvent event) := fun _ => rfl

theorem fetch (alike : client.SeenAs view other) (settings : Settings) (fragment : Fragment) :
    Viewed view (Runner.fetch ⟨client, settings⟩ fragment).run
      (Runner.fetch ⟨other, settings⟩ fragment).run := by
  intro session
  have answers := alike (Runner.request ⟨client, settings⟩ fragment) session.client
  rw [Runner.run_fetch, Runner.run_fetch]
  exact congrArg (fun answer => (answer.1, (⟨answer.2, session.events ++
    [Runner.statementEvent ⟨client, settings⟩ fragment answer.1]⟩ : Session σ'))) answers

theorem paired (alike : client.SeenAs view other) (settings : Settings) :
    Paired (fun work seen => Viewed view work seen) ⟨client, settings⟩ ⟨other, settings⟩
      fun _ => True where
  toJoint := joint view
  convention := rfl
  logs event _ := log view event
  sends _ _ _ _ _ fragment _ _ := fetch alike settings fragment
  inner _ _ _ _ := trivial

theorem asks (alike : client.SeenAs view other) (settings : Settings) (plan : Plan) :
    Paired.Asks (fun work seen => Viewed view work seen) ⟨client, settings⟩ ⟨other, settings⟩
      (fun _ => True) plan where
  members _ _ := trivial
  main fragment _ := fetch alike settings fragment
  counts fragment _ := fetch alike settings fragment
  warning := (joint view).warning rfl (log view _)

theorem run (alike : client.SeenAs view other) (settings : Settings) (plan : Plan) :
    Viewed view (Runner.run ⟨client, settings⟩ plan) (Runner.run ⟨other, settings⟩ plan) :=
  (paired alike settings).run (asks alike settings plan)

theorem runChain (alike : client.SeenAs view other) (settings : Settings) (chain : Chain) :
    Viewed view (Runner.runChain ⟨client, settings⟩ chain)
      (Runner.runChain ⟨other, settings⟩ chain) :=
  (paired alike settings).runChain fun plan _ => asks alike settings plan

end Viewed

end FluentSql
