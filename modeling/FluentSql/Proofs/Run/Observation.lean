import FluentSql.Proofs.Run.Law
import FluentSql.Proofs.Run.PairedRun

/-!
# Settings for those who read the log

The tag of statements, the length to which they are logged and the warning of writes that no filter
restricts are for those who read the log. A client that does not look at tags receives the same
statements under all such settings, each of them whole, and the responses are the same.

Results:
1. `Unnoticed.paired`: no statement for an embed, and no event, tells the runs apart.
2. `Runner.run_unnoticed`: neither does the run of a plan.
-/

namespace FluentSql

variable {σ α : Type}

/-- What a request asks for, whatever its tag. -/
def Request.content (request : Request) : String × List Json := (request.sql, request.params)

/-- In two states that are alike the client gives the same answer to requests that differ at most in
their tags, and its states are alike again. -/
structure Client.IgnoresTags (client : Client σ) (alike : σ → σ → Prop) : Prop where
  answers : ∀ {request request' : Request} {state state' : σ}, request.content = request'.content →
    alike state state' → (client.answer request state).1 = (client.answer request' state').1
  stays : ∀ {request request' : Request} {state state' : σ}, request.content = request'.content →
    alike state state' → alike (client.answer request state).2 (client.answer request' state').2

/-- No tag makes a difference to a client just when it answers as if there were none. -/
theorem Client.ignoresTags_eq_iff {client : Client σ} :
    client.IgnoresTags (· = ·) ↔
      ∀ tag sql params state,
        client.answer ⟨tag, sql, params⟩ state = client.answer ⟨none, sql, params⟩ state := by
  constructor
  · intro ignores tag sql params state
    exact Prod.ext (ignores.answers rfl rfl) (ignores.stays rfl rfl)
  · intro untagged
    have same : ∀ {request request' : Request} {state state' : σ},
        request.content = request'.content → state = state' →
        client.answer request state = client.answer request' state' := by
      rintro ⟨tag, sql, params⟩ ⟨tag', sql', params'⟩ state _ content rfl
      obtain ⟨rfl, rfl⟩ := Prod.mk.inj content
      rw [untagged tag, untagged tag']
    exact ⟨fun content start => congrArg Prod.fst (same content start),
      fun content start => congrArg Prod.snd (same content start)⟩

/-- The whole of a statement of the plan with its values: of the main statement, of the count, or of
a statement for an embed at any depth. -/
def Plan.Sends (plan : Plan) (content : String × List Json) : Prop :=
  ∃ fragment, content = (Fragment.sql fragment, Fragment.params fragment) ∧
    (plan.statement = some fragment ∨ plan.countStatement = some fragment ∨
      ∃ embed column value ending, Embed.Within plan.selection.embeds embed ∧
        embed.statement column value ending = .ok fragment)

/-- Two sessions that a client cannot tell apart, in which it has received statements of a plan. -/
structure Indistinct (alike : σ → σ → Prop) (plan : Plan)
    (session session' : Session (σ × List Request)) : Prop where
  client : alike session.client.1 session'.client.1
  received : session.client.2.map Request.content = session'.client.2.map Request.content
  whole : ∀ request ∈ session.client.2, plan.Sends request.content

/-- Works that come to the same in sessions that a client cannot tell apart, and lead to such
sessions again. -/
def Unnoticed (alike : σ → σ → Prop) (plan : Plan)
    (work work' : InSession (σ × List Request) α) : Prop :=
  ∀ session session', Indistinct alike plan session session' →
    (work session).1 = (work' session').1 ∧ Indistinct alike plan (work session).2 (work' session').2

namespace Unnoticed

variable {alike : σ → σ → Prop} {plan : Plan} {client : Client σ} {settings settings' : Settings}

theorem joint (alike : σ → σ → Prop) (plan : Plan) :
    Joint fun work work' => Unnoticed alike plan work work' where
  pure _ _ _ indistinct := ⟨rfl, indistinct⟩
  bind := by
    intro _ _ work work' next next' first later session session' indistinct
    obtain ⟨same, indistinct⟩ := first session session' indistinct
    rw [InSession.bind_eq, InSession.bind_eq, same]
    exact later _ _ _ indistinct

/-- Events are none of the client's business, and so it does not matter which are logged. -/
theorem logs (event event' : Event) :
    Unnoticed alike plan (logEvent event : InSession (σ × List Request) Unit) (logEvent event') :=
  fun _ _ indistinct => ⟨rfl, indistinct.client, indistinct.received, indistinct.whole⟩

/-- A statement of the plan is received whole, whatever its tag and its event are. -/
theorem fetch (ignores : client.IgnoresTags alike) {fragment : Fragment}
    (sends : plan.Sends (Fragment.sql fragment, Fragment.params fragment)) :
    Unnoticed alike plan (Runner.fetch ⟨client.recording, settings⟩ fragment).run
      (Runner.fetch ⟨client.recording, settings'⟩ fragment).run := by
  intro session session' indistinct
  rw [Runner.run_fetch, Runner.run_fetch]
  have content : (Runner.request ⟨client.recording, settings⟩ fragment).content =
      (Runner.request ⟨client.recording, settings'⟩ fragment).content := rfl
  refine ⟨ignores.answers content indistinct.client, ignores.stays content indistinct.client, ?_, ?_⟩
  · show (session.client.2 ++ [_]).map Request.content = (session'.client.2 ++ [_]).map Request.content
    rw [List.map_append, List.map_append, indistinct.received]
    rfl
  · refine List.forall_mem_append.mpr ⟨indistinct.whole, List.forall_mem_singleton.mpr ?_⟩
    exact sends

theorem paired (ignores : client.IgnoresTags alike)
    (same : settings'.convention = settings.convention) :
    Paired (fun work work' => Unnoticed alike plan work work') ⟨client.recording, settings⟩
      ⟨client.recording, settings'⟩ (Embed.Within plan.selection.embeds) :=
  { joint alike plan with
    convention := same
    logs := fun event _ => logs event event
    sends := by
      intro embed within column value ending fragment _ written
      exact fetch ignores ⟨fragment, rfl, .inr (.inr ⟨embed, column, value, ending, within, written⟩)⟩
    inner := fun _ within _ present => .inside within present }

theorem asks (ignores : client.IgnoresTags alike) :
    Paired.Asks (fun work work' => Unnoticed alike plan work work') ⟨client.recording, settings⟩
      ⟨client.recording, settings'⟩ (Embed.Within plan.selection.embeds) plan where
  members _ present := .listed present
  main fragment sends := fetch ignores ⟨fragment, rfl, .inl sends⟩
  counts fragment sends := fetch ignores ⟨fragment, rfl, .inr (.inl sends)⟩
  warning := by
    unfold Runner.warning
    -- One run may warn where the other does not.
    split <;> split
    · exact logs _ _
    · exact fun _ _ indistinct =>
        ⟨rfl, indistinct.client, indistinct.received, indistinct.whole⟩
    · exact fun _ _ indistinct =>
        ⟨rfl, indistinct.client, indistinct.received, indistinct.whole⟩
    · exact (joint alike plan).pure _

end Unnoticed

/-- The main result: under settings that name foreign keys alike a client that does not look at tags
receives the same statements with the same values, each of them whole, and the responses to the plan
are the same. -/
theorem Runner.run_unnoticed {client : Client σ} {alike : σ → σ → Prop}
    (ignores : client.IgnoresTags alike) {settings settings' : Settings}
    (same : settings'.convention = settings.convention) {state state' : σ}
    (start : alike state state') (plan : Plan) (events events' : List Event) :
    let one := run ⟨client.recording, settings⟩ plan ⟨(state, []), events⟩
    let other := run ⟨client.recording, settings'⟩ plan ⟨(state', []), events'⟩
    one.1 = other.1 ∧
      one.2.client.2.map Request.content = other.2.client.2.map Request.content ∧
      (∀ request ∈ one.2.client.2, plan.Sends request.content) ∧
      alike one.2.client.1 other.2.client.1 := by
  have indistinct : Indistinct alike plan ⟨(state, []), events⟩ ⟨(state', []), events'⟩ :=
    ⟨start, rfl, nofun⟩
  obtain ⟨response, last⟩ :=
    (Unnoticed.paired ignores same).run (Unnoticed.asks ignores) _ _ indistinct
  exact ⟨response, last.received, last.whole, last.client⟩

namespace Lessons

/-- Courses with their lessons and the teachers of these, and the number of all courses. -/
def courses : Chain :=
  { table := "courses", calls := [.select "*, lessons(*, teachers(*))" ⟨true, false⟩] }

/-- Settings under which next to nothing is logged. -/
def quiet : Settings :=
  { Settings.default with warnUnscopedWrites := false, tag := some "report", maxLogged := some 0 }

theorem convention_quiet : quiet.convention = Settings.default.convention := rfl

theorem ignoresTags_scripted : Client.scripted.IgnoresTags (· = ·) :=
  Client.ignoresTags_eq_iff.mpr fun _ _ _ _ => rfl

/-- There is one course, and the teachers of its lesson cannot be reached. -/
def rules : Script ClientReply :=
  ⟨none, some "FROM \"courses\"", none, none, none, .ok [course]⟩ :: script (.error lost)

theorem courses_unnoticed :
    Client.scripted.IgnoresTags (· = ·) ∧ quiet.convention = Settings.default.convention ∧
      ∃ plan, courses.plan = .ok plan ∧
        let one := Runner.run ⟨Client.scripted.recording, .default⟩ plan ⟨(rules, []), []⟩
        let other := Runner.run ⟨Client.scripted.recording, quiet⟩ plan ⟨(rules, []), []⟩
        one.1 = other.1 ∧
          one.2.client.2.map Request.content = other.2.client.2.map Request.content ∧
          (∀ request ∈ one.2.client.2, plan.Sends request.content) ∧
          one.2.client.1 = other.2.client.1 := by
  have checked : courses.plan.toBool = true := by decide +kernel
  cases planned : courses.plan with
  | error error =>
    rw [planned] at checked
    cases checked
  | ok plan =>
    exact ⟨ignoresTags_scripted, convention_quiet, plan, rfl,
      Runner.run_unnoticed ignoresTags_scripted convention_quiet (Eq.refl rules) plan [] []⟩

end Lessons

end FluentSql
