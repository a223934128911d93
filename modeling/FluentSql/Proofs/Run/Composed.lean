import FluentSql.Proofs.Run.Paired

/-!
# Work that is put together from parts

Embeds of any depth are resolved by logging events and by sending the statements of embeds, one
after the other, and by nothing else. What holds of these parts, and of work that is put together
from parts of which it holds, holds of the resolution of embeds (`Covers.resolveRows`).
-/

namespace FluentSql

variable {σ α β : Type}

/-- A property of work in a session that goes over from parts to what is put together from them. -/
structure Compositional (holds : {α : Type} → InSession σ α → Prop) : Prop where
  pure : ∀ {α : Type} (value : α), holds (Pure.pure value : InSession σ α)
  bind : ∀ {α β : Type} {work : InSession σ α} {next : α → InSession σ β}, holds work →
    (∀ value, holds (next value)) → holds (work >>= next)

/-- Such a property, which logging has, and sending the statements for embeds of a kind, which the
embeds inside them are of, too. -/
structure Covers (holds : {α : Type} → InSession σ α → Prop) (runner : Runner σ)
    (kind : Embed → Prop) : Prop extends Compositional holds where
  logs : ∀ event, holds (logEvent event : InSession σ Unit)
  sends : ∀ embed, kind embed → ∀ column value ending fragment,
    ending = "" ∨ ending = " LIMIT 1" → embed.statement column value ending = .ok fragment →
    holds (runner.fetch fragment).run
  inner : ∀ embed, kind embed → ∀ nested ∈ embed.embeds, kind nested

namespace Covers

variable {holds : {α : Type} → InSession σ α → Prop} {runner : Runner σ} {kind : Embed → Prop}

/-- A property of works is a relation that does not look at the second work. -/
theorem paired (covers : Covers holds runner kind) :
    Paired (fun work (_ : InSession σ _) => holds work) runner runner kind where
  pure := covers.pure
  bind := covers.bind
  convention := rfl
  logs event _ := covers.logs event
  sends := covers.sends
  inner := covers.inner

/-- Resolving an embed of the kind, and with it all that is inside it. -/
theorem resolveEmbed (covers : Covers holds runner kind) (embed : Embed) (member : kind embed)
    (base : String) (row : Row) : holds (runner.resolveEmbed embed base row).run :=
  covers.paired.resolveEmbed embed member base row

/-- Resolving embeds of the kind in any rows. -/
theorem resolveRows (covers : Covers holds runner kind) (embeds : List Embed)
    (members : ∀ embed ∈ embeds, kind embed) (base : String) (rows : List Row) :
    holds (runner.resolveRows embeds base rows) :=
  covers.paired.resolveRows embeds members base rows

end Covers

end FluentSql
