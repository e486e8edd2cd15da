import Mathlib.Data.List.Nodup
import TrafficLens.Proofs.Service.Isolation
import TrafficLens.Proofs.Text.Replacement

/-!
# The round of a job

A job that runs for all tenants goes on a round: it asks for the schemas, and then it runs once for
the default tenant and once for each other tenant that a schema in the listing belongs to. `IsRound`
says which schemas are visited, and in which order, without saying how they are collected. The runs
of a round are parts of its transcript that follow one another (`yields_runJobFor`), so a run that
fails takes nothing away from the others, and the reports tell the two kinds of runs apart
(`Service.job_visits_tenants_once`).
-/

namespace TrafficLens

open Attempt

theorem Tenant.schema_inj {t u : Tenant} : t.schema = u.schema ↔ t = u := by
  cases t
  cases u
  simp

/-- What comes first among some members of a list comes first in the list. -/
theorem idxOf_lt_idxOf_of_filter {α : Type} [DecidableEq α] {p : α → Bool} {xs : List α} {a b : α}
    (ha : p a) (hb : p b) (h : (xs.filter p).idxOf a < (xs.filter p).idxOf b) :
    xs.idxOf a < xs.idxOf b := by
  induction xs with
  | nil => simp at h
  | cons x xs ih =>
    by_cases hx : p x
    · rw [List.filter_cons_of_pos hx] at h
      by_cases hxa : x = a
      · subst hxa
        have hxb : x ≠ b := by
          rintro rfl
          exact Nat.lt_irrefl _ h
        rw [List.idxOf_cons_self, List.idxOf_cons_ne _ hxb]
        exact Nat.succ_pos _
      · have hxb : x ≠ b := by
          rintro rfl
          simp at h
        rw [List.idxOf_cons_ne _ hxa, List.idxOf_cons_ne _ hxb] at h ⊢
        exact Nat.succ_lt_succ (ih (Nat.lt_of_succ_lt_succ h))
    · rw [List.filter_cons_of_neg hx] at h
      have hxa : x ≠ a := by
        rintro rfl
        exact hx ha
      have hxb : x ≠ b := by
        rintro rfl
        exact hx hb
      rw [List.idxOf_cons_ne _ hxa, List.idxOf_cons_ne _ hxb]
      exact Nat.succ_lt_succ (ih h)

/-! ## Which tenants are visited -/

/-- Does the schema begin in the given way? -/
def hasStart (start schema : String) : Bool :=
  (Text.dropStart? start.toList schema.toList).isSome

theorem hasStart_iff {start schema : String} :
    hasStart start schema ↔ start.toList <+: schema.toList := by
  rw [hasStart, Option.isSome_iff_exists]
  constructor
  · rintro ⟨rest, h⟩
    exact ⟨rest, (Text.eq_append_of_dropStart? h).symm⟩
  · rintro ⟨rest, h⟩
    rw [← h]
    exact ⟨rest, Text.dropStart?_append start.toList rest⟩

/-- A round begins with one schema. It goes on with the other schema names of a listing that begin
in a given way, each once and in the order in which they are first listed. -/
structure IsRound (first start : String) (listed schemas : List String) : Prop where
  head : schemas.head? = some first
  nodup : schemas.Nodup
  mem_iff : ∀ schema, schema ∈ schemas ↔
    schema = first ∨ schema ∈ listed ∧ IsSchema schema ∧ start.toList <+: schema.toList
  ordered : schemas.tail.Pairwise fun a b => listed.idxOf a < listed.idxOf b

namespace Service

/-- One more schema adds its tenant, unless it has none that is not there yet. -/
theorem addTenants_cons (tenants : List Tenant) (schema : String) (rest : List String) :
    (addTenants tenants (schema :: rest) = addTenants tenants rest ∧
        ∀ t : Tenant, t.schema = schema → t ∈ tenants) ∨
      ∃ t : Tenant, t.schema = schema ∧ t ∉ tenants ∧
        addTenants tenants (schema :: rest) = addTenants (tenants ++ [t]) rest := by
  rw [addTenants]
  split
  · next hknown =>
    obtain ⟨u, hu, hschema⟩ := List.any_eq_true.1 hknown
    refine .inl ⟨rfl, fun t ht => ?_⟩
    obtain rfl : u = t := Tenant.schema_inj.1 ((beq_iff_eq.1 hschema).trans ht.symm)
    exact hu
  · next hnew =>
    by_cases hvalid : IsSchema schema
    · let t : Tenant := ⟨schema, (isSchemaName_iff schema).2 hvalid⟩
      have hnot : t ∉ tenants := fun ht => hnew (List.any_eq_true.2 ⟨t, ht, beq_self_eq_true _⟩)
      refine .inr ⟨t, rfl, hnot, ?_⟩
      rw [show Tenant.ofSchema schema = .ok t from t.ofSchema_schema]
    · rw [Tenant.ofSchema_of_not hvalid]
      refine .inl ⟨rfl, fun t ht => absurd ?_ hvalid⟩
      rw [← ht]
      exact (isSchemaName_iff _).1 t.valid

/-- Some schemas add the tenants that they belong to and that were not there, in the order in which
they are first listed. -/
theorem exists_addTenants (tenants : List Tenant) (listed : List String) :
    ∃ others : List Tenant, addTenants tenants listed = tenants ++ others ∧
      (∀ t, t ∈ others ↔ t ∉ tenants ∧ t.schema ∈ listed) ∧
      others.Pairwise fun t u => listed.idxOf t.schema < listed.idxOf u.schema := by
  induction listed generalizing tenants with
  | nil => exact ⟨[], by simp [addTenants], by simp, .nil⟩
  | cons schema rest ih =>
    -- The other tenants move on by one place, since none of them has this schema.
    have hlater : ∀ {others : List Tenant}, (∀ t ∈ others, t.schema ≠ schema) →
        others.Pairwise (fun t u => rest.idxOf t.schema < rest.idxOf u.schema) →
        others.Pairwise fun t u =>
          (schema :: rest).idxOf t.schema < (schema :: rest).idxOf u.schema := by
      intro others hne horder
      refine horder.imp_of_mem fun ht hu hlt => ?_
      rw [List.idxOf_cons_ne _ (hne _ ht).symm, List.idxOf_cons_ne _ (hne _ hu).symm]
      exact Nat.succ_lt_succ hlt
    rcases addTenants_cons tenants schema rest with ⟨hadd, hknown⟩ | ⟨t, rfl, hnew, hadd⟩
    · obtain ⟨others, hothers, hmem, horder⟩ := ih tenants
      refine ⟨others, hadd.trans hothers, fun t => ?_, hlater (fun t ht => ?_) horder⟩
      · rw [hmem, List.mem_cons]
        refine and_congr_right fun hnot => (or_iff_right fun hschema => ?_).symm
        exact hnot (hknown t hschema)
      · exact fun hschema => ((hmem t).1 ht).1 (hknown t hschema)
    · obtain ⟨others, hothers, hmem, horder⟩ := ih (tenants ++ [t])
      have hne : ∀ u ∈ others, u.schema ≠ t.schema := fun u hu hschema =>
        ((hmem u).1 hu).1 (by simp [Tenant.schema_inj.1 hschema])
      refine ⟨t :: others, by rw [hadd, hothers, List.append_assoc, List.singleton_append],
        fun u => ?_, List.pairwise_cons.2 ⟨fun u hu => ?_, hlater hne horder⟩⟩
      · rw [List.mem_cons, hmem, List.mem_append, List.mem_singleton, List.mem_cons,
          Tenant.schema_inj]
        by_cases hut : u = t
        · subst hut
          simp [hnew]
        · simp [hut]
      · rw [List.idxOf_cons_self, List.idxOf_cons_ne _ (hne u hu).symm]
        exact Nat.succ_pos _

/-- The tenants that a listing sends a job to. -/
def roundOf (first : Tenant) (start : String) (listed : List String) : List Tenant :=
  addTenants [first] (listed.filter (hasStart start))

theorem isRound_roundOf (first : Tenant) (start : String) (listed : List String) :
    IsRound first.schema start listed ((roundOf first start listed).map Tenant.schema) := by
  obtain ⟨others, hothers, hmem, horder⟩ :=
    exists_addTenants [first] (listed.filter (hasStart start))
  have hlisted : ∀ t, t ∈ others ↔
      t ≠ first ∧ t.schema ∈ listed ∧ start.toList <+: t.schema.toList := fun t => by
    rw [hmem, List.mem_singleton, List.mem_filter, hasStart_iff]
  have hothers_ne : others.Pairwise (· ≠ ·) := horder.imp fun hlt heq => by
    rw [heq] at hlt
    exact Nat.lt_irrefl _ hlt
  have hnodup : (first :: others).Nodup :=
    List.nodup_cons.2 ⟨fun h => ((hlisted first).1 h).1 rfl, hothers_ne⟩
  rw [roundOf, hothers, List.singleton_append]
  refine ⟨rfl, hnodup.map fun _ _ h => Tenant.schema_inj.1 h, fun schema => ?_, ?_⟩
  · rw [List.map_cons, List.mem_cons, List.mem_map]
    refine or_congr_right' fun hne => ⟨?_, fun ⟨hschema, hvalid, hstart⟩ => ?_⟩
    · rintro ⟨t, ht, rfl⟩
      obtain ⟨-, hschema, hstart⟩ := (hlisted t).1 ht
      exact ⟨hschema, (isSchemaName_iff _).1 t.valid, hstart⟩
    · exact ⟨⟨schema, (isSchemaName_iff schema).2 hvalid⟩,
        (hlisted _).2 ⟨fun heq => hne (congrArg Tenant.schema heq), hschema, hstart⟩, rfl⟩
  · rw [List.map_cons, List.tail_cons, List.pairwise_map]
    refine horder.imp_of_mem fun ht hu hlt => ?_
    exact idxOf_lt_idxOf_of_filter (hasStart_iff.2 ((hlisted _).1 ht).2.2)
      (hasStart_iff.2 ((hlisted _).1 hu).2.2) hlt

end Service

/-! ## The runs of a round -/

/-- A run of a job for a tenant: its part of the transcript, and how it ended. -/
structure JobRun where
  tenant : Tenant
  events : List Event
  outcome : Except Failure Json

namespace JobRun

/-- The schema that was visited. -/
def schema (run : JobRun) : String := run.tenant.schema

/-- What is reported of a run, by schema. -/
def report (run : JobRun) : String × Json := (run.schema, Service.reportOf run.outcome)

/-- It is a run of this job, from the beginning to the end. -/
def IsOf (s : Service) (job : Job) (run : JobRun) : Prop :=
  (s.runJob run.tenant job).Yields run.events run.outcome

end JobRun

namespace Service

variable {s : Service} {job : Job} {es : List Event} {x : Except Failure (List (String × Json))}

/-- A job runs for one tenant after the other, however the runs end. -/
theorem yields_runJobFor {reports : List (String × Json)} {tenants : List Tenant} :
    (s.runJobFor job reports tenants).Yields es x ↔
      ∃ runs : List JobRun, runs.map JobRun.tenant = tenants ∧ (∀ run ∈ runs, run.IsOf s job) ∧
        es = runs.flatMap JobRun.events ∧
        x = .ok
          ((runs.map JobRun.report).foldl (fun acc e => Dict.insert e.1 e.2 acc) reports) := by
  induction tenants generalizing reports es with
  | nil =>
    rw [runJobFor, yields_pure]
    constructor
    · rintro ⟨rfl, rfl⟩
      exact ⟨[], rfl, by simp, rfl, rfl⟩
    · rintro ⟨runs, hruns, -, rfl, rfl⟩
      obtain rfl := List.map_eq_nil_iff.1 hruns
      exact ⟨rfl, rfl⟩
  | cons t rest ih =>
    rw [runJobFor, yields_outcome_bind]
    constructor
    · rintro ⟨es₁, es₂, outcome, rfl, hrun, hrest⟩
      obtain ⟨runs, rfl, hruns, rfl, rfl⟩ := ih.1 hrest
      exact ⟨⟨t, es₁, outcome⟩ :: runs, rfl, List.forall_mem_cons.2 ⟨hrun, hruns⟩, rfl, rfl⟩
    · rintro ⟨runs, hmap, hruns, rfl, rfl⟩
      obtain ⟨run, runs, rfl, rfl, rfl⟩ := List.map_eq_cons_iff.1 hmap
      obtain ⟨hrun, hruns⟩ := List.forall_mem_cons.1 hruns
      exact ⟨run.events, _, run.outcome, rfl, hrun, ih.2 ⟨runs, rfl, hruns, rfl, rfl⟩⟩

/-- A report that a job answers tells of no error. -/
theorem delivers_runJob (s : Service) (t : Tenant) (job : Job) :
    Delivers (fun report => report.member? "error" = none) (s.runJob t job) := by
  cases job <;> exact delivers_bind fun _ => delivers_pure rfl

/-- What is reported of a run tells of an error exactly if the run failed. -/
theorem tellsOfError_iff {run : JobRun} (h : run.IsOf s job) :
    run.report.2.member? "error" ≠ none ↔ ∃ f, run.outcome = .error f := by
  obtain ⟨t, events, outcome⟩ := run
  cases outcome with
  | ok report =>
    have hnone : report.member? "error" = none := delivers_runJob s t job h
    simp [JobRun.report, reportOf, hnone]
  | error f => simp [JobRun.report, reportOf, Json.member?, Dict.find?_cons]

/-- A round begins with the listing of the schemas. If it is refused then that is all. -/
theorem yields_runJobEverywhere {first : Tenant} (hfirst : s.defaultTenant = .ok first) :
    (s.runJobEverywhere job).Yields es x ↔
      (∃ e, es = [⟨.shared .listSchemas, Except.error e⟩] ∧ x = .error (.database e)) ∨
        ∃ (listed : List String) (rest : List Event),
          es = ⟨.shared .listSchemas, Except.ok listed⟩ :: rest ∧
            (s.runJobFor job [] (roundOf first s.settings.jobs.schemaStart listed)).Yields
              rest x := by
  have hlisting : s.runJobEverywhere job =
      sendShared .listSchemas >>= fun listed : List String =>
        s.runJobFor job [] (roundOf first s.settings.jobs.schemaStart listed) := by
    rw [runJobEverywhere, jobTenants, hfirst]
    exact congrArg (Program.request (.shared .listSchemas))
      (funext fun reply => by cases reply <;> rfl)
  rw [hlisting]
  exact yields_sendShared_bind

/-- **A job visits every tenant once**, whatever the database lists and however the runs go. The
schemas are asked for first. If they are listed then the job runs once for each schema of the round,
one run behind the other, and nothing else happens. The reports are those of the runs, by schema,
and they tell of an error for exactly those schemas whose run has failed. -/
theorem job_visits_tenants_once (s : Service) (job : Job) {first : Tenant}
    (hfirst : s.defaultTenant = .ok first) {es : List Event}
    {x : Except Failure (List (String × Json))} (hy : (s.runJobEverywhere job).Yields es x) :
    ∃ (reply : Except DatabaseError (List String)) (rest : List Event),
      es = ⟨.shared .listSchemas, reply⟩ :: rest ∧
      (∀ e, reply = .error e → rest = [] ∧ x = .error (.database e)) ∧
      ∀ listed, reply = .ok listed → ∃ runs : List JobRun,
        IsRound first.schema s.settings.jobs.schemaStart listed (runs.map JobRun.schema) ∧
        (∀ run ∈ runs, run.IsOf s job) ∧ rest = runs.flatMap JobRun.events ∧
        (∃ reports, x = .ok reports ∧ reports.Perm (runs.map JobRun.report)) ∧
        ∀ run ∈ runs, run.report.2.member? "error" ≠ none ↔ ∃ f, run.outcome = .error f := by
  obtain ⟨e, rfl, rfl⟩ | ⟨listed, rest, rfl, hrest⟩ := (yields_runJobEverywhere hfirst).1 hy
  · refine ⟨.error e, [], rfl, ?_, nofun⟩
    rintro _ ⟨⟩
    exact ⟨rfl, rfl⟩
  · obtain ⟨runs, htenants, hruns, hevents, hx⟩ := yields_runJobFor.1 hrest
    have hround := isRound_roundOf first s.settings.jobs.schemaStart listed
    rw [← htenants, List.map_map] at hround
    refine ⟨.ok listed, rest, rfl, nofun, ?_⟩
    rintro _ ⟨⟩
    have hkeys : (Dict.keys (runs.map JobRun.report)).Nodup := by
      rw [Dict.keys, List.map_map]
      exact hround.nodup
    exact ⟨runs, hround, hruns, hevents, ⟨_, hx, Dict.perm_ofList hkeys⟩,
      fun run hrun => tellsOfError_iff (hruns run hrun)⟩

/-- A service whose jobs visit the schemas that begin with `t_`. -/
def touring : Service :=
  { plain with settings := { plain.settings with jobs := { schemaStart := "t_" } } }

/-- A listing with a schema that is listed twice, one that begins otherwise and two texts that are
no schema names. -/
def mixedListing : List String := ["t_b", "other", "public", "t_a", "t_b", "t_A", "t-c"]

/-- Reply like a clerk, but list the schemas. -/
def listingReply (listed : List String) : (r : Request) → Clerk → r.Reply × Clerk
  | .shared .listSchemas, k => k.answer listed
  | r, k => k.reply r

/-- In the second schema of three a statement is refused. -/
theorem job_visits_tenants_once_refused :
    let job := touring.runJobEverywhere .hsts
    let clerk : Clerk := { plan := List.replicate 5 none ++ [some (.server none "gone")] }
    let reports := [("public", TransportReport.toJson {}), ("t_a", TransportReport.toJson {}),
      ("t_b", .object [("error", .string (Failure.database (.server none "gone")).message)])]
    touring.defaultTenant = .ok .standard ∧
      (Program.run (listingReply mixedListing) job.run clerk).1 = .ok reports ∧
      ∃ runs : List JobRun, IsRound "public" "t_" mixedListing (runs.map JobRun.schema) ∧
        (∀ run ∈ runs, run.IsOf touring .hsts) ∧ reports.Perm (runs.map JobRun.report) := by
  intro job clerk reports
  have hfirst : touring.defaultTenant = .ok .standard := Tenant.standard.ofSchema_schema
  have hreports : (Program.run (listingReply mixedListing) job.run clerk).1 = .ok reports := by
    decide +kernel
  have hy := Program.yields_transcript (listingReply mixedListing) job.run clerk
  obtain ⟨reply, rest, hes, -, hlisted⟩ := job_visits_tenants_once touring .hsts hfirst hy
  have hreply : reply = .ok mixedListing := by
    cases hes
    rfl
  obtain ⟨runs, hround, hruns, -, ⟨_, hx, hperm⟩, -⟩ := hlisted _ hreply
  rw [hreports] at hx
  obtain rfl := Except.ok.inj hx
  exact ⟨hfirst, hreports, runs, hround, hruns, hperm⟩

end Service

end TrafficLens
