import Mathlib.Data.List.Forall2
import TrafficLens.Proofs.Program.Clerk
import TrafficLens.Proofs.Program.Ledger
import TrafficLens.Service.Processing

/-!
# What an analysis commits

An analysis is one transaction. Whatever the database answers, it either commits its work as if
nothing had ever failed, or nothing: `analyze_commits` says which statements are left of the
transaction, in which order, once everything is taken away that a rollback to a savepoint undid, and
that the alerts which are counted are those of these statements. Each step is tried again from its
start, so the proof needs of a step only what its last try adds (`Attempt.Adds`).
-/

namespace TrafficLens

open Attempt Ledger

/-- The statements are the commands of a tenant, one after another, and all succeeded. -/
def CarryOut (t : Tenant) (commands : List Command) (work : List Sent) : Prop :=
  List.Forall₂ (fun command s => ∃ answer, s = ⟨t, command, .ok answer⟩) commands work

theorem CarryOut.append {t : Tenant} {cs cs' : List Command} {work work' : List Sent}
    (h : CarryOut t cs work) (h' : CarryOut t cs' work') : CarryOut t (cs ++ cs') (work ++ work') :=
  List.rel_append h h'

theorem CarryOut.single {t : Tenant} {command : Command} (answer : command.Answer) :
    CarryOut t [command] [⟨t, command, .ok answer⟩] :=
  .cons ⟨answer, rfl⟩ .nil

/-- The number of alerts that a statement has stored. -/
def Sent.alertsStored : Sent → Nat
  | ⟨_, .insertAlert _, .ok n⟩ => n
  | _ => 0

/-- The number of alerts that some statements have stored. -/
def alertsStored : List Sent → Nat
  | [] => 0
  | s :: work => s.alertsStored + alertsStored work

@[simp] theorem alertsStored_append (work work' : List Sent) :
    alertsStored (work ++ work') = alertsStored work + alertsStored work' := by
  induction work with
  | nil => simp [alertsStored]
  | cons s work ih => simp [alertsStored, ih, Nat.add_assoc]

theorem alertsStored_eq_zero {t : Tenant} {commands : List Command} {work : List Sent}
    (h : CarryOut t commands work) (hcommands : ∀ a, Command.insertAlert a ∉ commands) :
    alertsStored work = 0 := by
  induction h with
  | nil => rfl
  | @cons command _ commands _ hs _ ih =>
    obtain ⟨answer, rfl⟩ := hs
    have hnone : Sent.alertsStored ⟨t, command, .ok answer⟩ = 0 := by
      cases command with
      | insertAlert a => exact absurd List.mem_cons_self (hcommands a)
      | _ => rfl
    have hrest := ih fun a ha => hcommands a (List.mem_cons_of_mem _ ha)
    rw [alertsStored, hnone, hrest]

/-- The command that writes the trace of an analysis. -/
def TraceWrite.command (trace : Trace) (endpointId : Uuid) : TraceWrite → Command
  | insert => .insertTrace trace (some endpointId) true
  | markAnalyzed => .markAnalyzed trace.id endpointId

namespace Service

variable {s : Service} {c : ConnectionId} {t : Tenant}

theorem adds_step (command : Command) :
    Adds c (s.step c t command) fun _ work => ∃ answer, work = [⟨t, command, .ok answer⟩] := by
  refine Adds.retryStep (((adds_send t command).bind fun _ => adds_pure ()).mono ?_)
  rintro v work ⟨answer, work₁, work₂, rfl, rfl, rfl, rfl⟩
  exact ⟨answer, rfl⟩

end Service

theorem adds_upsertFields (c : ConnectionId) (t : Tenant) (fields : List Field) :
    Adds c (upsertFields (.held c) t fields) fun _ work =>
      CarryOut t (fields.map .upsertField) work := by
  induction fields with
  | nil =>
    refine (adds_pure ()).mono ?_
    rintro v work ⟨-, rfl⟩
    exact .nil
  | cons f fields ih =>
    refine ((adds_send t (.upsertField f)).bind fun _ => ih).mono ?_
    rintro v work ⟨answer, work₁, work₂, rfl, rfl, hwork⟩
    exact (CarryOut.single answer).append hwork

theorem adds_insertAlerts (c : ConnectionId) (t : Tenant) (alerts : List Alert) :
    Adds c (insertAlerts (.held c) t alerts) fun n work =>
      CarryOut t (alerts.map .insertAlert) work ∧ alertsStored work = n := by
  induction alerts with
  | nil =>
    refine (adds_pure 0).mono ?_
    rintro v work ⟨rfl, rfl⟩
    exact ⟨.nil, rfl⟩
  | cons a alerts ih =>
    have hcons := (adds_send (c := c) t (.insertAlert a)).bind fun (n : Nat) =>
      ih.bind fun m => adds_pure (n + m)
    refine hcons.mono ?_
    rintro v work ⟨n, work₁, work₂, rfl, rfl, m, work₃, work₄, rfl, ⟨hwork, rfl⟩, rfl, rfl⟩
    rw [List.append_nil, alertsStored_append]
    exact ⟨(CarryOut.single n).append hwork, rfl⟩

namespace Service

variable {s : Service} {c : ConnectionId} {t : Tenant}

/-- The commands by which an analysis writes what it found. -/
def findingCommands (trace : Trace) (write : TraceWrite) (fields : List Field)
    (alerts : List Alert) (update : EndpointUpdate) : List Command :=
  write.command trace update.id ::
    (fields.map .upsertField ++ (alerts.map .insertAlert ++ [.updateEndpoint update]))

theorem adds_persist (trace : Trace) (write : TraceWrite) (fields : List Field)
    (alerts : List Alert) (update : EndpointUpdate) :
    Adds c (s.persist c t trace write fields alerts update) fun n work =>
      CarryOut t (findingCommands trace write fields alerts update) work ∧
        alertsStored work = n := by
  have hfields : Adds c
      (if fields.isEmpty then pure () else retryStep s.retry c (upsertFields (.held c) t fields))
      fun _ work => CarryOut t (fields.map .upsertField) work := by
    cases fields with
    | nil =>
      refine (adds_pure ()).mono ?_
      rintro v work ⟨-, rfl⟩
      exact .nil
    | cons f fields => exact (adds_upsertFields c t (f :: fields)).retryStep
  have halerts : Adds c
      (if alerts.isEmpty then pure 0 else retryStep s.retry c (insertAlerts (.held c) t alerts))
      fun n work => CarryOut t (alerts.map .insertAlert) work ∧ alertsStored work = n := by
    cases alerts with
    | nil =>
      refine (adds_pure 0).mono ?_
      rintro v work ⟨rfl, rfl⟩
      exact ⟨.nil, rfl⟩
    | cons a alerts => exact (adds_insertAlerts c t (a :: alerts)).retryStep
  have hwrite := adds_step (s := s) (c := c) (t := t) (write.command trace update.id)
  have hupdate := adds_step (s := s) (c := c) (t := t) (.updateEndpoint update)
  have hpersist : Adds c (s.persist c t trace write fields alerts update) _ :=
    hwrite.bind fun _ => hfields.bind_of_isTrue fun _ => halerts.bind_of_isTrue fun n =>
      hupdate.bind fun _ => adds_pure n
  refine hpersist.mono ?_
  rintro n work ⟨-, work₁, _, rfl, ⟨a₁, rfl⟩, -, work₂, _, rfl, h₂, m, work₃, _, rfl, ⟨h₃, rfl⟩, -,
    work₄, _, rfl, ⟨a₄, rfl⟩, rfl, rfl⟩
  have h₁ : CarryOut t [write.command trace update.id] _ := .single a₁
  have h₄ : CarryOut t [.updateEndpoint update] _ := .single a₄
  have hwrites : ∀ a, Command.insertAlert a ∉ [write.command trace update.id] := by
    cases write <;> simp [TraceWrite.command]
  rw [List.append_nil]
  refine ⟨h₁.append (h₂.append (h₃.append h₄)), ?_⟩
  rw [alertsStored_append, alertsStored_append, alertsStored_append,
    alertsStored_eq_zero h₁ hwrites, alertsStored_eq_zero h₂ (by simp),
    alertsStored_eq_zero h₄ (by simp), Nat.zero_add, Nat.zero_add, Nat.add_zero]

/-- The alerts of an analysis, with identifiers from a supply. -/
def findingAlerts (s : Service) (endpoint : Endpoint) (trace : Trace) (isNew : Bool)
    (document : Option Json) (outcome : Reconciliation) (ids : Nat → Uuid) : List Alert :=
  Alert.withIds ids 0
    (pendingAlerts s.scanner s.settings.alerts.hstsFromTraffic endpoint trace outcome document
      isNew)

/-- What an analysis teaches about its endpoint. -/
def findingUpdate (endpoint : Endpoint) (trace : Trace) (outcome : Reconciliation) :
    EndpointUpdate :=
  { id := endpoint.id
    seenAt := trace.createdAt
    risk := Risk.max endpoint.risk outcome.risk
    authenticated := trace.session.signal }

/-- The commands of an analysis in which nothing fails. -/
def analysisCommands (s : Service) (endpoint : Endpoint) (trace : Trace) (isNew : Bool)
    (write : TraceWrite) (document : Option Json) (existing : List Field)
    (fieldIds alertIds : Nat → Uuid) : List Command :=
  let outcome := reconcile s.scanner fieldIds trace endpoint.id existing
  .lockEndpoint endpoint.id :: .loadFields endpoint.id ::
    findingCommands trace write outcome.changed
      (s.findingAlerts endpoint trace isNew document outcome alertIds)
      (findingUpdate endpoint trace outcome)

/-- What is reported of an analysis that has made some statements. -/
def analysisReport (s : Service) (endpoint : Endpoint) (trace : Trace) (isNew : Bool)
    (document : Option Json) (existing : List Field) (fieldIds alertIds : Nat → Uuid)
    (work : List Sent) : AnalysisReport :=
  let outcome := reconcile s.scanner fieldIds trace endpoint.id existing
  { endpointId := endpoint.id, isNewEndpoint := isNew
    fieldsWritten := outcome.changed.length
    alertsGenerated := (s.findingAlerts endpoint trace isNew document outcome alertIds).length
    alertsInserted := alertsStored work }

theorem adds_analyzeLocked (endpoint : Endpoint) (trace : Trace) (isNew : Bool)
    (write : TraceWrite) (document : Option Json) :
    Adds c (s.analyzeLocked c t endpoint trace isNew write document) fun report work =>
      ∃ existing fieldIds alertIds, ⟨t, .loadFields endpoint.id, .ok existing⟩ ∈ work ∧
        CarryOut t (s.analysisCommands endpoint trace isNew write document existing fieldIds
          alertIds) work ∧
        report =
          s.analysisReport endpoint trace isNew document existing fieldIds alertIds work := by
  have hids : Adds c freshIds fun _ work => work = [] :=
    adds_of_asks (asks_ask (by simp [Request.connection?]))
  have hall : Adds c (s.analyzeLocked c t endpoint trace isNew write document) _ :=
    (adds_step (.lockEndpoint endpoint.id)).bind fun _ =>
      (adds_send t (.loadFields endpoint.id)).bind fun existing =>
        hids.bind fun fieldIds => hids.bind fun alertIds =>
          (adds_persist trace write
            (reconcile s.scanner fieldIds trace endpoint.id existing).changed
            (s.findingAlerts endpoint trace isNew document
              (reconcile s.scanner fieldIds trace endpoint.id existing) alertIds)
            (findingUpdate endpoint trace
              (reconcile s.scanner fieldIds trace endpoint.id existing))).bind fun _ =>
                adds_pure _
  refine hall.mono ?_
  rintro report work ⟨-, _, _, rfl, ⟨a₁, rfl⟩, existing, _, _, rfl, rfl, fieldIds, _, _, rfl, rfl,
    alertIds, _, _, rfl, rfl, n, work, _, rfl, ⟨hwork, hn⟩, rfl, rfl⟩
  have hlock : CarryOut t [.lockEndpoint endpoint.id] _ := .single a₁
  have hload : CarryOut t [.loadFields endpoint.id] _ := .single existing
  have hcount : alertsStored ([⟨t, .lockEndpoint endpoint.id, .ok a₁⟩] ++
      ([⟨t, .loadFields endpoint.id, .ok existing⟩] ++ work)) = n := by
    rw [alertsStored_append, alertsStored_append, alertsStored_eq_zero hlock (by simp),
      alertsStored_eq_zero hload (by simp), Nat.zero_add, Nat.zero_add, hn]
  rw [List.append_nil]
  exact ⟨existing, fieldIds, alertIds, by simp, hlock.append (hload.append hwork),
    congrArg (AnalysisReport.mk _ _ _ _) hcount.symm⟩

/-- Outside of all levels the ledger does not see that the uploaded document is read. -/
theorem after_loadUploaded {e : Endpoint} {es : List Event} {x : Except Failure (Option Json)}
    (h : (loadUploaded c t e).Yields es x) (closed : List (Option (List Sent))) :
    after c ⟨[], closed⟩ es = ⟨[], closed⟩ := by
  rw [loadUploaded] at h
  cases hname : e.documentName with
  | none =>
    rw [hname] at h
    obtain ⟨rfl, -⟩ := yields_pure.1 h
    rfl
  | some name =>
    rw [hname] at h
    cases hup : e.hasUploadedDocument with
    | false =>
      rw [hup] at h
      obtain ⟨rfl, -⟩ := yields_pure.1 h
      rfl
    | true =>
      rw [hup] at h
      obtain ⟨reply, rfl, -⟩ := yields_send.1 h
      rw [after_cons, note_command]
      rfl

/-- **What an analysis commits.** Whatever the database answers, an analysis that succeeds ends with
a commit that was acknowledged, and what is committed is what an analysis sends in which nothing
fails: the commands for the document, the fields and the identifiers that it was given, in their
order, each once and successful. The alerts that it counts are those which these statements have
stored. An analysis that fails commits nothing. -/
theorem analyze_commits (endpoint : Endpoint) (trace : Trace) (isNew : Bool) (write : TraceWrite)
    {es : List Event} {x : Except Failure AnalysisReport}
    (h : (s.analyze c t endpoint trace isNew write).Yields es x) :
    (∃ document existing fieldIds alertIds work before inside,
      let seen := endpoint.seenAt trace.createdAt
      es = before ++ inside ∧ (loadUploaded c t seen).Yields before (.ok document) ∧
        es.getLast? = some ⟨.commitLevel c, Except.ok ()⟩ ∧
        after c {} es = ⟨[], [some work]⟩ ∧
        CarryOut t
          (s.analysisCommands seen trace isNew write document existing fieldIds alertIds) work ∧
        ⟨t, .loadFields endpoint.id, .ok existing⟩ ∈ work ∧
        x = .ok (s.analysisReport seen trace isNew document existing fieldIds alertIds work)) ∨
    ∃ f, x = .error f ∧ (after c {} es).committed = [] := by
  obtain ⟨f, rfl, hload⟩ | ⟨before, inside, document, rfl, hload, htransaction⟩ := yields_bind.1 h
  · exact .inr ⟨f, rfl, by rw [after_loadUploaded hload]; rfl⟩
  rcases after_transaction (adds_analyzeLocked _ trace isNew write document) htransaction with
    ⟨report, work, rfl, ⟨existing, fieldIds, alertIds, hmem, hwork, rfl⟩, hlast, hafter⟩ |
    ⟨f, rfl, hafter⟩
  · refine .inl ⟨document, existing, fieldIds, alertIds, work, before, inside, rfl, hload, ?_, ?_,
      hwork, hmem, rfl⟩
    · rw [List.getLast?_append, hlast]
      rfl
    · rw [after_append, after_loadUploaded hload, hafter]
      rfl
  · refine .inr ⟨f, rfl, ?_⟩
    rw [after_append, after_loadUploaded hload, hafter]
    rfl

/-- A service with the settings as they come, and everything that can be in memory. -/
def plain : Service where
  settings := { database := { url := "" } }
  scanner := (PatternScanner.mk [] []).toScanner
  retry := .ofSettings {}
  resolver := { store := .memory, policy := {}, bypass := .generated }
  queue := .memory
  maxPages := 1

/-- The first alert is refused once, and so the alerts are stored again from the first one. -/
theorem analyze_commits_retried :
    let endpoint : Endpoint :=
      .ofTemplate (.ofNat 1) "api.local" "GET" ⟨"/users", "^/users(/)*$", 0, false⟩
    let trace : Trace := .bare (.ofNat 2) ⟨0, 0⟩ "api.local" "GET" "/users" 200
    let analysis := plain.analyze 0 .standard endpoint trace true .insert
    let clerk : Clerk :=
      { plan := List.replicate 9 none ++ [some (.server (some "40001") "")] }
    (clerk.attend analysis).1 = .ok ⟨endpoint.id, true, 0, 2, 2⟩ ∧
      ∃ work, after 0 {} (clerk.transcript analysis) = ⟨[], [some work]⟩ ∧
        alertsStored work = 2 := by
  intro endpoint trace analysis clerk
  have hreport : (clerk.attend analysis).1 = .ok ⟨endpoint.id, true, 0, 2, 2⟩ := by decide +kernel
  obtain ⟨_, _, _, _, work, _, _, -, -, -, hafter, -, -, hx⟩ | ⟨f, hf, -⟩ :=
    analyze_commits endpoint trace true .insert (clerk.yields_transcript analysis)
  · rw [hreport] at hx
    have hcount := congrArg AnalysisReport.alertsInserted (Except.ok.inj hx)
    exact ⟨hreport, work, hafter, hcount.symm⟩
  · rw [hreport] at hf
    cases hf

end Service

end TrafficLens
