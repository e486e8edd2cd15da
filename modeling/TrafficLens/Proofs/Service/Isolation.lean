import TrafficLens.Proofs.Program.Bench
import TrafficLens.Proofs.Service.Processing
import TrafficLens.Proofs.Service.Tenancy
import TrafficLens.Service.Http

/-!
# Tenants stay apart

An `Operation` is given a text from outside that names a schema: with a queued trace, as the schema
that is used by default, or as the one that a job is to run for. `Operation.tenants_apart` says what
the text does. If it is no schema name then it is refused before anything is asked of the world.
Rehearsals with two schema names on one bench send the same statements with the same values, but for
the names in front of the tables, and these are the operation's own schema.
-/

namespace TrafficLens

/-! ## Schema names -/

/-- One to sixty-three lower-case letters, digits and underscores, not beginning with a digit. -/
structure IsSchema (s : String) : Prop where
  pos : 1 ≤ s.length
  le : s.length ≤ 63
  char : ∀ c ∈ s.toList, ('a' ≤ c ∧ c ≤ 'z') ∨ ('0' ≤ c ∧ c ≤ '9') ∨ c = '_'
  head : ∀ c ∈ s.toList.head?, ¬ ('0' ≤ c ∧ c ≤ '9')

theorem isLower_iff (c : Char) : c.isLower = true ↔ 'a' ≤ c ∧ c ≤ 'z' :=
  Bool.and_eq_true_iff.trans (and_congr decide_eq_true_iff decide_eq_true_iff)

theorem isDigit_iff (c : Char) : c.isDigit = true ↔ '0' ≤ c ∧ c ≤ '9' :=
  Bool.and_eq_true_iff.trans (and_congr decide_eq_true_iff decide_eq_true_iff)

theorem isSchemaChar_iff (c : Char) :
    isSchemaChar c = true ↔ ('a' ≤ c ∧ c ≤ 'z') ∨ ('0' ≤ c ∧ c ≤ '9') ∨ c = '_' := by
  rw [isSchemaChar, Bool.or_eq_true, Bool.or_eq_true, isLower_iff, isDigit_iff, beq_iff_eq,
    or_assoc]

theorem isSchemaStart_iff (c : Char) :
    isSchemaStart c = true ↔ isSchemaChar c = true ∧ ¬ ('0' ≤ c ∧ c ≤ '9') := by
  rw [isSchemaChar_iff, isSchemaStart, Bool.or_eq_true, isLower_iff, beq_iff_eq]
  constructor
  · rintro (hlower | rfl)
    · exact ⟨.inl hlower, fun hdigit =>
        absurd (Char.le_trans hlower.1 hdigit.2) (by decide)⟩
    · exact ⟨.inr (.inr rfl), by decide⟩
  · rintro ⟨hlower | hdigit | hline, hno⟩
    · exact .inl hlower
    · exact absurd hdigit hno
    · exact .inr hline

theorem isSchemaName_iff (s : String) : isSchemaName s = true ↔ IsSchema s := by
  have hfields : IsSchema s ↔ 1 ≤ s.toList.length ∧ s.toList.length ≤ 63 ∧
      (∀ c ∈ s.toList, isSchemaChar c = true) ∧
      ∀ c ∈ s.toList.head?, ¬ ('0' ≤ c ∧ c ≤ '9') := by
    simp only [isSchemaChar_iff, String.length_toList]
    exact ⟨fun h => ⟨h.pos, h.le, h.char, h.head⟩, fun h => ⟨h.1, h.2.1, h.2.2.1, h.2.2.2⟩⟩
  rw [hfields, isSchemaName]
  cases s.toList with
  | nil => simp
  | cons c cs =>
    simp only [Bool.and_eq_true, isSchemaStart_iff, List.all_eq_true, decide_eq_true_eq,
      List.length_cons, List.forall_mem_cons, List.head?_cons, Option.mem_some_iff, forall_eq']
    constructor
    · rintro ⟨⟨⟨hc, hdigit⟩, hcs⟩, hlength⟩
      exact ⟨by omega, by omega, ⟨hc, hcs⟩, hdigit⟩
    · rintro ⟨-, hlength, ⟨hc, hcs⟩, hdigit⟩
      exact ⟨⟨⟨hc, hdigit⟩, hcs⟩, by omega⟩

namespace Tenant

theorem ofSchema_schema (t : Tenant) : ofSchema t.schema = .ok t := dif_pos t.valid

/-- What is wrong with a text that is no schema name. -/
def refusal (schema : String) : Failure :=
  .invalidContext ("'" ++ schema ++ "' is not a valid schema name")

theorem ofSchema_of_not {schema : String} (h : ¬ IsSchema schema) :
    ofSchema schema = .error (refusal schema) := dif_neg (mt (isSchemaName_iff schema).1 h)

end Tenant

/-! ## Operations -/

/-- The service with another schema for the traces that come without one. -/
def Service.withDefault (s : Service) (schema : String) : Service :=
  { s with settings :=
      { s.settings with service := { s.settings.service with defaultSchema := schema } } }

/-- What is done for a schema that is named from outside. -/
inductive Operation where
  /-- A worker, which may hold a connection, processes a trace that says its schema. -/
  | work (held : Option ConnectionId) (trace : Trace)
  /-- A worker processes a trace that leaves the schema to the service. -/
  | workByDefault (held : Option ConnectionId) (trace : Trace)
  | job (job : Job)
  /-- A job is asked for over HTTP, by its name. -/
  | jobOverHttp (name : String) (job : Job) (h : Job.ofName? name = some job)

namespace Operation

/-- What comes of an operation. -/
def Outcome : Operation → Type
  | work .. | workByDefault .. => Except Failure Disposition × Option ConnectionId
  | job .. => Json
  | jobOverHttp .. => HttpResponse

/-- The operation for a schema. -/
def attempt (s : Service) (schema : String) : (op : Operation) → Attempt op.Outcome
  | work held trace => s.work held { trace, routing := { schema := some schema } }
  | workByDefault held trace => (s.withDefault schema).work held { trace }
  | job j => do
    let t ← Attempt.ofExcept (Tenant.ofSchema schema)
    s.runJob t j
  | jobOverHttp name _ _ => Http.runJob s name (some schema)

/-- What comes of an operation for a text that is no schema name. -/
def refused (schema : String) : (op : Operation) → Except Failure op.Outcome
  | work held _ | workByDefault held _ => .ok (.error (Tenant.refusal schema), held)
  | job _ => .error (Tenant.refusal schema)
  | jobOverHttp .. => .ok (Http.failed 400 (Tenant.refusal schema).message)

/-- Such an operation asks nothing of the world. -/
theorem attempt_of_not (s : Service) {schema : String} (h : ¬ IsSchema schema) (op : Operation) :
    (op.attempt s schema).run = .done (op.refused schema) := by
  cases op with
  | work held trace =>
    simp only [attempt, Service.work, Service.tenantOf, Tenant.ofRouting, Option.getD_some,
      Tenant.ofSchema_of_not h]
    rfl
  | workByDefault held trace =>
    simp only [attempt, Service.work, Service.tenantOf, Tenant.ofRouting, Option.getD_none,
      Service.withDefault, Tenant.ofSchema_of_not h]
    rfl
  | job j =>
    simp only [attempt, Tenant.ofSchema_of_not h]
    rfl
  | jobOverHttp name j hname =>
    simp only [attempt, Http.runJob, hname, Tenant.ofSchema_of_not h]
    rfl

/-! ## Operations for tenants -/

open Attempt

/-- What a worker does is alike for all tenants, whichever way it learns of them. -/
theorem uniform_work (service : Tenant → Service) (routing : Tenant → Routing) {trace : Trace}
    (htenant : ∀ t, (service t).tenantOf (routing t) = .ok t)
    (hprocess : ∀ c, Uniform fun t => (service t).process c t trace)
    (held : Option ConnectionId) :
    Uniform fun t => (service t).work held { trace, routing := routing t } := by
  simp only [Service.work, htenant]
  cases held
  all_goals
    refine Uniform.bind ?connection fun connection => ?next
    case connection =>
      first
      | exact uniform_ask (r := .checkout) trivial
      | exact uniform_pure (Except.ok _)
    case next =>
      cases connection with
      | error e => exact uniform_pure _
      | ok c =>
        refine (hprocess c).outcome.bind fun x => ?_
        cases x with
        | ok d => exact uniform_pure _
        | error f =>
          dsimp only
          split
          · exact (uniform_ask (r := .discard c) trivial).bind fun _ => uniform_pure _
          · exact uniform_pure _

/-- The log of an operation is that of a uniform attempt. The answer over HTTP names the schema, but
only when all is done. -/
theorem exists_uniform (s : Service) (op : Operation) :
    ∃ (β : Type) (a : Tenant → Attempt β), Uniform a ∧
      ∀ (b : Bench) (t : Tenant), b.log (op.attempt s t.schema) = b.log (a t) := by
  cases op with
  | work held trace =>
    refine ⟨_, _, uniform_work (fun _ => s) (fun t => { schema := some t.schema })
      (fun t => t.ofSchema_schema) (fun c => s.uniform_process c trace) held, fun _ _ => rfl⟩
  | workByDefault held trace =>
    refine ⟨_, _, uniform_work (fun t => s.withDefault t.schema) (fun _ => {})
      (fun t => t.ofSchema_schema) (fun c => s.uniform_process c trace) held, fun _ _ => rfl⟩
  | job j =>
    refine ⟨_, _, s.uniform_runJob j, fun b t => ?_⟩
    simp only [attempt, Tenant.ofSchema_schema]
    rfl
  | jobOverHttp name j hname =>
    refine ⟨_, _, (s.uniform_runJob j).outcome, fun b t => ?_⟩
    simp only [attempt, Http.runJob, hname, Tenant.ofSchema_schema]
    exact b.log_bind_pure _ _

/-- **Tenants stay apart.** Whatever the database and the rest of the world answer, as long as they
answer the same, an operation for one schema sends the statements that it sends for another one, with
the same values, once every qualifier is replaced. All tables in them are qualified by the
operation's own schema. And for a text that is no schema name the operation is refused at once: it
asks nothing of the world, and so no statement is sent. -/
theorem tenants_apart (s : Service) (op : Operation) :
    (∀ s₁ s₂, IsSchema s₁ → IsSchema s₂ →
      ∀ (b : Bench) (answers : List ServerAction) (last : ServerAction), b.world.OwesRollbacks →
        (b.answering answers last).log (op.attempt s s₂) =
          ((b.answering answers last).log (op.attempt s s₁)).map (Statement.rename s₁ s₂) ∧
        ∀ sent ∈ (b.answering answers last).log (op.attempt s s₁), ∀ name ∈ sent.tables,
          ∃ table ∈ Tenant.tableNames, name = "\"" ++ s₁ ++ "\"." ++ table) ∧
    ∀ schema, ¬ IsSchema schema → (op.attempt s schema).run = .done (op.refused schema) := by
  refine ⟨fun s₁ s₂ h₁ h₂ b answers last hb => ?_, fun schema h => op.attempt_of_not s h⟩
  obtain ⟨β, a, ha, hlog⟩ := op.exists_uniform s
  let t : Tenant := ⟨s₁, (isSchemaName_iff s₁).2 h₁⟩
  let u : Tenant := ⟨s₂, (isSchemaName_iff s₂).2 h₂⟩
  have hfirst : (b.answering answers last).log (op.attempt s s₁) =
      (b.answering answers last).log (a t) := hlog _ t
  have hsecond : (b.answering answers last).log (op.attempt s s₂) =
      (b.answering answers last).log (a u) := hlog _ u
  rw [hfirst, hsecond]
  exact ⟨Bench.log_alike ha hb answers last t u,
    fun sent hsent => Bench.within_of_mem_log ha hb answers last t hsent⟩

/-- A bench in an empty world. -/
def emptyBench : Bench where
  world := { clock := ⟨0, 0⟩, firstId := 0 }
  instants _ := ⟨0, 0⟩
  supplies _ := .ofNat
  probes _ := .unanswered
  refusals _ := none

/-- Two rollups whose count is refused. -/
theorem tenants_apart_rollup :
    let b := emptyBench.answering [.reply {}, .reply {}, .refuse "53100"] (.reply {})
    let rollup := (Operation.job .rollup).attempt Service.plain
    (b.log (rollup "acme")).map Statement.text =
      ["BEGIN", "SET TRANSACTION ISOLATION LEVEL REPEATABLE READ",
        "SELECT COUNT(*) FROM \"acme\".trace WHERE endpoint_id IS NOT NULL AND analyzed = TRUE " ++
          "AND created_at < $1",
        "ROLLBACK"] ∧
      b.log (rollup "globex") = (b.log (rollup "acme")).map (Statement.rename "acme" "globex") := by
  intro b rollup
  have hacme : IsSchema "acme" := (isSchemaName_iff _).1 (by decide +kernel)
  have hglobex : IsSchema "globex" := (isSchemaName_iff _).1 (by decide +kernel)
  have hempty : emptyBench.world.OwesRollbacks := fun _ h => by cases h
  exact ⟨by decide +kernel, ((tenants_apart Service.plain (.job .rollup)).1 "acme" "globex" hacme
    hglobex emptyBench [.reply {}, .reply {}, .refuse "53100"] (.reply {}) hempty).1⟩

end Operation

end TrafficLens
