import FluentSql.Proofs.Run.Composed
import FluentSql.Proofs.Run.Session

/-!
# What work in a session keeps

`Keeps invariant work` says that an invariant of sessions that holds before a piece of work holds
after it, whether the work fails or not. The resolution of embeds keeps what logging and sending
their statements keep (`Conserves.resolveRows`).
-/

namespace FluentSql

variable {σ α β : Type}

/-- An invariant that holds before the work holds after it. -/
def Keeps (invariant : Session σ → Prop) (work : InSession σ α) : Prop :=
  ∀ session, invariant session → invariant (work session).2

theorem Keeps.compositional (invariant : Session σ → Prop) :
    Compositional fun work => Keeps invariant work where
  pure _ _ holds := holds
  bind first later session holds := later _ _ (first session holds)

/-- An invariant that is kept by logging and by sending the statements for embeds of a kind, which
the embeds inside them are of, too. -/
structure Conserves (invariant : Session σ → Prop) (runner : Runner σ) (kind : Embed → Prop) :
    Prop where
  logs : ∀ event, Keeps invariant (logEvent event)
  sends : ∀ embed, kind embed → ∀ column value ending fragment,
    ending = "" ∨ ending = " LIMIT 1" → embed.statement column value ending = .ok fragment →
    Keeps invariant (runner.fetch fragment).run
  inner : ∀ embed, kind embed → ∀ nested ∈ embed.embeds, kind nested

namespace Conserves

variable {invariant : Session σ → Prop} {runner : Runner σ} {kind : Embed → Prop}

theorem covers (conserves : Conserves invariant runner kind) :
    Covers (fun work => Keeps invariant work) runner kind :=
  { Keeps.compositional invariant with
    logs := conserves.logs
    sends := conserves.sends
    inner := conserves.inner }

/-- Resolving embeds of the kind in any rows. -/
theorem resolveRows (conserves : Conserves invariant runner kind) (embeds : List Embed)
    (members : ∀ embed ∈ embeds, kind embed) (base : String) (rows : List Row) :
    Keeps invariant (runner.resolveRows embeds base rows) :=
  conserves.covers.resolveRows embeds members base rows

end Conserves

end FluentSql
