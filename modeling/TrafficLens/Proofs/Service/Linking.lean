import TrafficLens.Proofs.Service.Announcement
import TrafficLens.Proofs.Service.Sorting

/-!
# What a batch links

When a batch is sorted, the groups that go to stored endpoints are linked, each in a transaction of
its own, and then the templates become endpoints, one after another, and their groups are linked to
them. `Placed` says which endpoints those are: a template whose text is stored already gets the
endpoint that has it, and any other gets a new one.

`performs_linkPage` puts this together with the sorting: if nothing fails then the transactions of a
batch link each of its traces to its target and nothing else.
-/

namespace TrafficLens

open Attempt Ledger

/-! ## The links of committed transactions -/

/-- The links of traces to endpoints that a command makes. -/
def Command.links : Command → List (Uuid × Uuid)
  | insertTrace trace (some id) _ => [(trace.id, id)]
  | markAnalyzed traceId id => [(traceId, id)]
  | linkTraces id traceIds => traceIds.map (·, id)
  | _ => []

/-- The links that transactions have made. -/
def committedLinks (works : List (List Sent)) : List (Uuid × Uuid) :=
  works.flatten.flatMap fun s =>
    match s.reply with
    | .ok _ => s.command.links
    | .error _ => []

theorem committedLinks_append (works works' : List (List Sent)) :
    committedLinks (works ++ works') = committedLinks works ++ committedLinks works' := by
  simp [committedLinks]

theorem committedLinks_of_carryOut {t : Tenant} {commands : List Command} {work : List Sent}
    (h : CarryOut t commands work) : committedLinks [work] = commands.flatMap Command.links := by
  rw [committedLinks, List.flatten_cons, List.flatten_nil, List.append_nil]
  induction h with
  | nil => rfl
  | cons hs _ ih =>
    obtain ⟨answer, rfl⟩ := hs
    rw [List.flatMap_cons, List.flatMap_cons, ih]

namespace Service

variable {s : Service} {c : ConnectionId} {t : Tenant} {store : MemoryStore}

theorem calm_step (command : Command) : Calm (s.step c t command) :=
  Calm.retryStep ((calm_send (.held c) t command).bind fun _ => calm_pure ())

theorem calm_linkBody (endpointId : Uuid) (group : TraceGroup) (alert : Option Alert) :
    Calm (s.linkBody c t endpointId group alert) := by
  refine (calm_step _).bind fun _ => (calm_step _).bind fun _ => ?_
  cases alert with
  | none => exact calm_pure ()
  | some a => exact calm_step (.insertAlert a)

theorem links_linkCommands (endpointId : Uuid) (group : TraceGroup) (alert : Option Alert) :
    (linkCommands endpointId group alert).flatMap Command.links = group.links endpointId := by
  cases alert <;> exact List.append_nil _

theorem performs_linkGroup (endpointId : Uuid) (group : TraceGroup) (alert : Option Alert) :
    Performs c store (s.linkGroup c t endpointId group alert) fun _ store' works =>
      store' = store ∧ committedLinks works = group.links endpointId := by
  rw [linkGroup_eq]
  refine (performs_transaction (calm_linkBody ..) (adds_linkBody endpointId group alert)).mono ?_
  rintro _ store' _ ⟨rfl, work, rfl, hwork⟩
  exact ⟨rfl, (committedLinks_of_carryOut hwork).trans (links_linkCommands ..)⟩

theorem performs_countLinked (report : BackfillReport) (size : Nat) :
    Performs c store (countLinked report size (.ok ())) fun _ store' works =>
      store' = store ∧ works = [] :=
  performs_pure ⟨rfl, rfl⟩

theorem performs_linkMatched (report : BackfillReport) (groups : List (Uuid × TraceGroup)) :
    Performs c store (s.linkMatched c t report groups) fun _ store' works =>
      store' = store ∧ committedLinks works = matchedLinks groups := by
  induction groups generalizing store report with
  | nil => exact performs_pure ⟨rfl, rfl⟩
  | cons p rest ih =>
    refine (performs_linkGroup p.1 p.2 none).outcome.bind ?_
    rintro _ store works ⟨_, rfl, rfl, hlinks⟩
    refine (performs_countLinked report _).bind ?_
    rintro report store _ ⟨rfl, rfl⟩
    refine (ih report).mono ?_
    rintro _ store _ ⟨rfl, hrest⟩
    exact ⟨rfl, by rw [committedLinks_append, hlinks, List.nil_append, hrest]; rfl⟩

end Service

/-! ## Placing the templates of a batch -/

theorem PendingEndpoint.LedBy.toUpper_method {policy : IdentifierPolicy} {p : PendingEndpoint}
    {l : Trace} (h : p.LedBy policy l) : p.method.toUpper = p.method := by
  rw [h.method, toUpper_toUpper]

/-- Templates become endpoints, one after another: new ones, or those that have their texts. -/
inductive Placed : MemoryStore → List PendingEndpoint → List Endpoint → MemoryStore → Prop
  | nil (s : MemoryStore) : Placed s [] [] s
  | cons {s s₁ s' : MemoryStore} {p : PendingEndpoint} {rest : List PendingEndpoint} {e : Endpoint}
    {isNew : Bool} {es : List Endpoint} (id : Uuid)
    (hmade : Resolver.made s id p.host p.method p.template = (.resolved e isNew, s₁))
    (h : Placed s₁ rest es s') : Placed s (p :: rest) (e :: es) s'

namespace Resolver

variable {s s' : MemoryStore}

/-- What is stored stays, and the endpoint of the template is stored then. -/
theorem mem_of_made {id : Uuid} {host method : String} {template : PathTemplate} {e : Endpoint}
    {isNew : Bool} (h : made s id host method template = (.resolved e isNew, s')) :
    s ⊆ s' ∧ e ∈ s' := by
  rw [made] at h
  split at h
  · next f hfound =>
    cases h
    exact ⟨List.Subset.refl _, (MemoryStore.of_findExact hfound).1⟩
  · cases h
    exact ⟨List.subset_append_left .., List.mem_append_right _ List.mem_cons_self⟩

end Resolver

namespace Placed

variable {s s' : MemoryStore} {pending : List PendingEndpoint} {es : List Endpoint}

theorem subset (h : Placed s pending es s') : s ⊆ s' := by
  induction h with
  | nil => exact List.Subset.refl _
  | cons id hmade _ ih => exact List.Subset.trans (Resolver.mem_of_made hmade).1 ih

theorem mem (h : Placed s pending es s') {e : Endpoint} (he : e ∈ es) : e ∈ s' := by
  induction h with
  | nil => cases he
  | cons id hmade h ih =>
    rcases List.mem_cons.1 he with rfl | he
    · exact h.subset (Resolver.mem_of_made hmade).2
    · exact ih he

end Placed

/-- The identifiers of endpoints, by their number. -/
def endpointIds (es : List Endpoint) (i : Nat) : Uuid := (es[i]?.map Endpoint.id).getD .nil

namespace Service

variable {s : Service} {c : ConnectionId} {t : Tenant} {store : MemoryStore}

theorem performs_placeEndpoint (hr : s.resolver.store = .memory) {p : PendingEndpoint}
    (hmethod : p.method.toUpper = p.method) :
    Performs c store (s.placeEndpoint t p) fun x store' works =>
      ∃ id e isNew, x = some (e, isNew) ∧
        Resolver.made store id p.host p.method p.template = (.resolved e isNew, store') ∧
        works = [] := by
  rw [placeEndpoint, hr]
  refine performs_freshIds.bind ?_
  rintro ids store _ ⟨rfl, rfl⟩
  refine (performs_insert hmethod (ids 0) p.template).bind ?_
  rintro _ store' _ ⟨rfl, ⟨rfl, hmade⟩ | ⟨rfl, rfl, e, hfound, hmade⟩⟩
  · exact performs_pure ⟨ids 0, _, true, rfl, hmade, rfl⟩
  · refine (performs_findExact p.host p.method p.template.path).bind ?_
    rintro _ store _ ⟨rfl, rfl, rfl⟩
    rw [hfound]
    exact performs_pure ⟨ids 0, e, false, rfl, hmade, rfl⟩

theorem performs_linkNew (hr : s.resolver.store = .memory) {p : PendingEndpoint}
    (hmethod : p.method.toUpper = p.method) (report : BackfillReport) :
    Performs c store (s.linkNew c t report p) fun _ store' works =>
      ∃ id e isNew,
        Resolver.made store id p.host p.method p.template = (.resolved e isNew, store') ∧
        committedLinks works = p.group.links e.id := by
  refine (performs_placeEndpoint hr hmethod).outcome.bind ?_
  rintro _ store' _ ⟨_, rfl, id, e, isNew, rfl, hmade, rfl⟩
  refine performs_freshIds.bind ?_
  rintro ids store' _ ⟨rfl, rfl⟩
  refine (performs_linkGroup e.id p.group _).outcome.bind ?_
  rintro _ store' works ⟨_, rfl, rfl, hlinks⟩
  refine (performs_countLinked _ _).mono ?_
  rintro _ store' _ ⟨rfl, rfl⟩
  exact ⟨id, e, isNew, hmade, by simpa using hlinks⟩

theorem performs_linkPending (hr : s.resolver.store = .memory) {pending : List PendingEndpoint}
    (hmethod : ∀ p ∈ pending, p.method.toUpper = p.method) (report : BackfillReport) :
    Performs c store (s.linkPending c t report pending) fun _ store' works =>
      ∃ es, Placed store pending es store' ∧
        committedLinks works = pendingLinks (endpointIds es) pending := by
  induction pending generalizing store report with
  | nil => exact performs_pure ⟨[], .nil _, rfl⟩
  | cons p rest ih =>
    refine (performs_linkNew hr (hmethod p List.mem_cons_self) report).bind ?_
    rintro report store₁ works ⟨id, e, isNew, hmade, hlinks⟩
    refine (ih (fun q hq => hmethod q (List.mem_cons_of_mem _ hq)) report).mono ?_
    rintro _ store' _ ⟨es, hplaced, hrest⟩
    refine ⟨e :: es, .cons id hmade hplaced, ?_⟩
    rw [committedLinks_append, hlinks, hrest]
    rfl

/-- **What a batch links**, if nothing fails: each trace to its target, when the templates of the
leaders have become endpoints. -/
theorem performs_linkPage (hr : s.resolver.store = .memory) (report : BackfillReport)
    (batch : List Trace) :
    Performs c store (s.linkPage c t report batch) fun _ store' works =>
      ∃ pending es, List.Forall₂ (PendingEndpoint.LedBy s.resolver.policy) pending
          (s.resolver.leaders store batch) ∧
        Placed store pending es store' ∧
        (committedLinks works).Perm
          (linksTo batch (s.resolver.targets store (endpointIds es) [] batch)) := by
  refine (performs_sort hr report batch).bind ?_
  rintro ⟨page, report⟩ store _ ⟨hsorts, rfl, rfl⟩
  refine (performs_linkMatched report page.matched).bind ?_
  rintro report store works ⟨rfl, hmatched⟩
  have hmethod : ∀ p ∈ page.pending, p.method.toUpper = p.method :=
    ((List.forall₂_and_left _ _).1 (hsorts.led.imp fun p l h => ⟨h.toUpper_method, h⟩)).1
  refine (performs_linkPending hr hmethod report).mono ?_
  rintro _ store' works' ⟨es, hplaced, hpending⟩
  refine ⟨page.pending, es, hsorts.led, hplaced, ?_⟩
  rw [List.nil_append, committedLinks_append, hmatched, hpending]
  exact hsorts.links (endpointIds es)

end Service

end TrafficLens
