import TrafficLens.Proofs.Service.Linking

/-!
# What batches leave behind

Traces that are handled batch after batch are linked, with two kinds of exceptions: those with an
empty path, and those that say "not found" and that no endpoint takes which was stored when their
batch was looked up (`Resolver.PassesBy`). The store only grows (`performs_linkBatches`), so when
the rest is handled again, a trace is linked then exactly if it says "not found" and an endpoint
takes it which has come in the meantime (`linkBatches_again`). That can happen: a service may say
"not found" before it first answers (`exists_linked_again`).
-/

namespace TrafficLens

open Attempt Ledger

/-! ## Batch after batch -/

/-- Link the traces of batch after batch. -/
def Service.linkBatches (s : Service) (c : ConnectionId) (t : Tenant) :
    BackfillReport → List (List Trace) → Attempt BackfillReport
  | report, [] => pure report
  | report, batch :: rest => do
    let report ← s.linkPage c t report batch
    linkBatches s c t report rest

/-- The traces that have no links. -/
def unlinked (links : List (Uuid × Uuid)) (traces : List Trace) : List Trace :=
  traces.filter fun trace => !links.any fun link => link.1 == trace.id

theorem mem_unlinked {links : List (Uuid × Uuid)} {traces : List Trace} {trace : Trace} :
    trace ∈ unlinked links traces ↔ trace ∈ traces ∧ ∀ id, (trace.id, id) ∉ links := by
  simp only [unlinked, List.mem_filter, Bool.not_eq_true', List.any_eq_false, beq_iff_eq,
    Prod.forall]
  exact and_congr_right fun _ =>
    ⟨fun h id hlink => h _ id hlink rfl, fun h a b hlink hid => h b (hid ▸ hlink)⟩

theorem mem_linksTo {batch : List Trace} {targets : List (Option Uuid)} {i : Nat} {trace : Trace}
    {id : Uuid} (htrace : batch[i]? = some trace) (htarget : targets[i]? = some (some id)) :
    (trace.id, id) ∈ linksTo batch targets := by
  refine List.mem_filterMap.2 ⟨(trace, some id), ?_, rfl⟩
  refine List.mem_of_getElem? (i := i) ?_
  rw [List.getElem?_zip_eq_some]
  exact ⟨htrace, htarget⟩

/-! ## Traces that bring up nothing -/

/-- A new endpoint is stored behind all others. -/
theorem Placed.exists_append {s s' : MemoryStore} {pending : List PendingEndpoint}
    {es : List Endpoint} (h : Placed s pending es s') : ∃ made, s' = s ++ made := by
  induction h with
  | nil s => exact ⟨[], (List.append_nil s).symm⟩
  | cons id hmade _ ih =>
    obtain ⟨made, rfl⟩ := ih
    rw [Resolver.made] at hmade
    split at hmade
    · cases hmade
      exact ⟨made, rfl⟩
    · cases hmade
      exact ⟨_, List.append_assoc ..⟩

namespace Resolver

variable {r : Resolver} {store : MemoryStore} {trace : Trace}

/-- No batch brings up an endpoint for the trace, and only a stored one that takes it is linked
to it. -/
def PassesBy (trace : Trace) : Prop := Path.normalize trace.path = "" ∨ trace.isNotFound

/-- The link of the trace to the stored endpoint that takes it. -/
def storedLink (r : Resolver) (store : MemoryStore) (trace : Trace) : Option (Uuid × Uuid) :=
  if Path.normalize trace.path = "" then none
  else (r.known store trace).map fun e => (trace.id, e.id)

theorem of_storedLink {link : Uuid × Uuid} (h : r.storedLink store trace = some link) :
    Path.normalize trace.path ≠ "" ∧
      ∃ e, r.known store trace = some e ∧ link = (trace.id, e.id) := by
  rw [storedLink] at h
  split at h
  · cases h
  · next hpath =>
    obtain ⟨e, he, rfl⟩ := Option.map_eq_some_iff.1 h
    exact ⟨hpath, e, he, rfl⟩

theorem of_known_append {made : List Endpoint} {e : Endpoint}
    (h : r.known (store ++ made) trace = some e) : r.known store trace = some e ∨ e ∈ made := by
  rw [known, accepted, Option.filter_eq_some_iff] at h
  obtain ⟨hfound, haccepts⟩ := h
  refine (MemoryStore.of_findMatch_append hfound).imp_left fun hbefore => ?_
  rw [known, accepted, Option.filter_eq_some_iff]
  exact ⟨hbefore, haccepts⟩

/-- A trace goes nowhere if it passes by and no stored endpoint takes it. -/
theorem of_target_eq_none {ids : Nat → Uuid} {ls : List Trace}
    (h : r.target store ids ls trace = none) :
    PassesBy trace ∧ r.storedLink store trace = none := by
  rw [target] at h
  rw [storedLink]
  split at h
  · next hpath =>
    have hpath : Path.normalize trace.path = "" := by simpa using hpath
    exact ⟨.inl hpath, if_pos hpath⟩
  · split at h
    · cases h
    · next hknown =>
      split at h
      · next hmissing => exact ⟨.inr hmissing, by simp [hknown]⟩
      · cases h

/-- A trace that passes by goes to the stored endpoint that takes it, or nowhere. -/
theorem target_of_passesBy (h : PassesBy trace) (ids : Nat → Uuid) (ls : List Trace) :
    (r.target store ids ls trace).map (trace.id, ·) = r.storedLink store trace := by
  rw [target, storedLink]
  by_cases hpath : Path.normalize trace.path = ""
  · simp [hpath]
  · have hmissing : trace.isNotFound := h.resolve_left hpath
    cases hknown : r.known store trace <;> simp [hpath, hmissing]

theorem not_leads_of_passesBy (h : PassesBy trace) (ls : List Trace) :
    ¬ r.leads store ls trace := by
  rw [leads_iff]
  rintro ⟨hpath, -, hmissing, -⟩
  rcases h with h | h
  · exact hpath h
  · rw [hmissing] at h
    cases h

variable {batch : List Trace}

theorem leaders_eq_nil (h : ∀ trace ∈ batch, PassesBy trace) : r.leaders store batch = [] := by
  induction batch using List.reverseRecOn with
  | nil => rfl
  | append_singleton batch trace ih =>
    rw [leaders_concat, follow, if_neg (not_leads_of_passesBy (h trace (by simp)) _)]
    exact ih fun trace htrace => h trace (List.mem_append_left _ htrace)

/-- A batch of traces that pass by links those that stored endpoints take. -/
theorem linksTo_of_passesBy (h : ∀ trace ∈ batch, PassesBy trace) (ids : Nat → Uuid)
    (ls : List Trace) :
    linksTo batch (r.targets store ids ls batch) = batch.filterMap (r.storedLink store) := by
  induction batch generalizing ls with
  | nil => rfl
  | cons trace rest ih =>
    obtain ⟨htrace, hrest⟩ := List.forall_mem_cons.1 h
    have hfirst : (r.target store ids ls trace).map (trace.id, ·) = r.storedLink store trace :=
      target_of_passesBy htrace ids ls
    have hothers := ih hrest (r.follow store ls trace)
    rw [linksTo] at hothers
    rw [targets, linksTo, List.zip_cons_cons, List.filterMap_cons, List.filterMap_cons, ← hfirst,
      hothers]

/-- A trace of a batch that is not linked passes by, and no endpoint takes it that was stored. -/
theorem passesBy_of_unlinked {ids : Nat → Uuid} (htrace : trace ∈ batch)
    (h : ∀ id, (trace.id, id) ∉ linksTo batch (r.targets store ids [] batch)) :
    PassesBy trace ∧ r.storedLink store trace = none := by
  obtain ⟨before, after, rfl⟩ := List.append_of_mem htrace
  have htarget : (r.targets store ids [] (before ++ trace :: after))[before.length]? =
      some (r.target store ids (r.leaders store before) trace) :=
    getElem?_targets before trace after
  cases hgoes : r.target store ids (r.leaders store before) trace with
  | none => exact of_target_eq_none hgoes
  | some id =>
    rw [hgoes] at htarget
    exact absurd (mem_linksTo (by simp) htarget) (h id)

end Resolver

/-! ## What a second pass links -/

namespace Service

open Resolver

variable {s : Service} {c c' : ConnectionId} {t : Tenant} {store : MemoryStore}

/-- Batch after batch stores endpoints behind those that were stored. Traces that remain pass by,
and if an endpoint takes one of them then it has come with the batches. -/
theorem performs_linkBatches (hr : s.resolver.store = .memory) (report : BackfillReport)
    (batches : List (List Trace)) :
    Performs c store (s.linkBatches c t report batches) fun _ store' works =>
      ∃ made, store' = store ++ made ∧
        ∀ trace ∈ unlinked (committedLinks works) batches.flatten, PassesBy trace ∧
          ∀ e, Path.normalize trace.path ≠ "" → s.resolver.known store' trace = some e →
            e ∈ made := by
  induction batches generalizing store report with
  | nil => exact performs_pure ⟨[], (List.append_nil store).symm, by simp [unlinked]⟩
  | cons batch rest ih =>
    refine (performs_linkPage hr report batch).bind ?_
    rintro report store₁ works ⟨pending, es, -, hplaced, hlinks⟩
    obtain ⟨made₁, rfl⟩ := hplaced.exists_append
    refine (ih report).mono ?_
    rintro _ store' works' ⟨made₂, rfl, hrest⟩
    refine ⟨made₁ ++ made₂, List.append_assoc .., fun trace htrace => ?_⟩
    simp only [committedLinks_append, mem_unlinked, List.flatten_cons, List.mem_append,
      not_or] at htrace hrest
    obtain ⟨hmem | hmem, hfree⟩ := htrace
    · obtain ⟨hpasses, hstored⟩ :=
        passesBy_of_unlinked hmem fun id hid => (hfree id).1 (hlinks.mem_iff.2 hid)
      refine ⟨hpasses, fun e hpath he => ?_⟩
      rw [List.append_assoc] at he
      refine (of_known_append he).resolve_left fun hbefore => ?_
      rw [storedLink, if_neg hpath, hbefore] at hstored
      cases hstored
    · obtain ⟨hpasses, hmade⟩ := hrest trace ⟨hmem, fun id => (hfree id).2⟩
      exact ⟨hpasses, fun e hpath he => List.mem_append_right _ (hmade e hpath he)⟩

/-- Traces that pass by are linked to the stored endpoints that take them, and nothing is stored. -/
theorem performs_linkBatches_of_passesBy (hr : s.resolver.store = .memory) (report : BackfillReport)
    {batches : List (List Trace)} (h : ∀ trace ∈ batches.flatten, PassesBy trace) :
    Performs c store (s.linkBatches c t report batches) fun _ store' works =>
      store' = store ∧
        (committedLinks works).Perm (batches.flatten.filterMap (s.resolver.storedLink store)) := by
  induction batches generalizing report with
  | nil => exact performs_pure ⟨rfl, .refl _⟩
  | cons batch rest ih =>
    rw [List.flatten_cons, List.forall_mem_append] at h
    obtain ⟨hbatch, hrest⟩ := h
    refine (performs_linkPage hr report batch).bind ?_
    rintro report store₁ works ⟨pending, es, hled, hplaced, hlinks⟩
    rw [leaders_eq_nil hbatch, List.forall₂_nil_right_iff] at hled
    subst hled
    cases hplaced
    refine (ih report hrest).mono ?_
    rintro _ store' works' ⟨rfl, hworks'⟩
    refine ⟨rfl, ?_⟩
    rw [committedLinks_append, List.flatten_cons, List.filterMap_append]
    rw [linksTo_of_passesBy hbatch] at hlinks
    exact hlinks.append hworks'

/-- **What a second pass links.** Traces are handled batch after batch, and those that are not
linked then are handled again, batch after batch. If nothing fails then the second pass stores no
endpoint. It links exactly the traces that stored endpoints take, to these endpoints. All of these
traces say "not found", and all of these endpoints have come with the first pass. -/
theorem linkBatches_again (hr : s.resolver.store = .memory) (report report' : BackfillReport)
    (batches again : List (List Trace)) {es es' : List Event}
    {x x' : Except Failure BackfillReport}
    (hy : (s.linkBatches c t report batches).Yields es x) (hes : store.Smooth es)
    (hagain : again.flatten =
      unlinked (committedLinks (Ledger.after c {} es).committed) batches.flatten)
    (hy' : (s.linkBatches c' t report' again).Yields es' x')
    (hes' : (store.after es).Smooth es') :
    ∃ linked linked' made, x = .ok linked ∧ x' = .ok linked' ∧ store.after es = store ++ made ∧
      (store.after es).after es' = store.after es ∧
      (committedLinks (Ledger.after c' {} es').committed).Perm
        (again.flatten.filterMap (s.resolver.storedLink (store.after es))) ∧
      ∀ trace ∈ again.flatten, ∀ link, s.resolver.storedLink (store.after es) trace = some link →
        trace.isNotFound ∧ ∃ e ∈ made, link = (trace.id, e.id) ∧
          s.resolver.known (store.after es) trace = some e := by
  obtain ⟨linked, works, rfl, ⟨made, hmade, hremain⟩, hafter⟩ :=
    performs_linkBatches hr report batches hy hes
  have hworks : (Ledger.after c {} es).committed = works := by
    rw [hafter []]
    simp [committed]
  rw [hworks] at hagain
  rw [← hagain] at hremain
  obtain ⟨linked', works', rfl, ⟨hstore, hlinks⟩, hafter'⟩ :=
    performs_linkBatches_of_passesBy hr report' (fun trace h => (hremain trace h).1) hy' hes'
  have hworks' : (Ledger.after c' {} es').committed = works' := by
    rw [hafter' []]
    simp [committed]
  refine ⟨linked, linked', made, rfl, rfl, hmade, hstore, by rwa [hworks'], ?_⟩
  intro trace htrace link hlink
  obtain ⟨hpasses, hnew⟩ := hremain trace htrace
  obtain ⟨hpath, e, he, rfl⟩ := of_storedLink hlink
  exact ⟨hpasses.resolve_left hpath, e, hnew e hpath he, rfl, he⟩

end Service

/-! ### A service that says "not found" before it first answers -/

/-- A trace that says "not found", and in the next batch one that brings up a template for both. -/
def hastyBatches : List (List Trace) :=
  [[.bare (.ofNat 1) ⟨0, 0⟩ "api.local" "GET" "/users/9" 404],
    [.bare (.ofNat 2) ⟨1, 0⟩ "api.local" "GET" "/users/1" 200]]

/-- The transcript of the batches, with nothing stored. -/
def hastyTranscript : List Event :=
  ({} : Clerk).transcript (Service.plain.linkBatches 0 .standard {} hastyBatches)

/-- What remains of the batches. -/
def hastyRemainder : List Trace :=
  unlinked (committedLinks (Ledger.after 0 {} hastyTranscript).committed) hastyBatches.flatten

/-- A clerk who has the endpoint of the template. -/
def hastyClerk : Clerk := { store := MemoryStore.after [] hastyTranscript }

theorem yields_hastyTranscript : (Service.plain.linkBatches 0 .standard {} hastyBatches).Yields
    hastyTranscript (.ok ⟨0, 1, 1, 0, 1, 0⟩) := by
  have hreport : (({} : Clerk).attend (Service.plain.linkBatches 0 .standard {} hastyBatches)).1 =
      .ok ⟨0, 1, 1, 0, 1, 0⟩ := by
    decide +kernel
  exact hreport ▸ ({} : Clerk).yields_transcript _

theorem smooth_hastyTranscript : MemoryStore.Smooth [] hastyTranscript :=
  ({} : Clerk).smooth_transcript rfl _

theorem smooth_hastyClerk (a : Attempt BackfillReport) :
    (MemoryStore.after [] hastyTranscript).Smooth (hastyClerk.transcript a) := by
  have hsmooth := hastyClerk.smooth_transcript (by rw [hastyClerk]) a
  rwa [show hastyClerk.store = MemoryStore.after [] hastyTranscript by rw [hastyClerk]] at hsmooth

/-- The trace that remains is linked to the endpoint that has come in the meantime. -/
theorem linkBatches_again_hasty :
    (committedLinks (Ledger.after 0 {} (hastyClerk.transcript
      (Service.plain.linkBatches 0 .standard {} [hastyRemainder]))).committed).Perm
      [(.ofNat 1, .ofNat 0)] := by
  have hagain : [hastyRemainder].flatten = unlinked
      (committedLinks (Ledger.after 0 {} hastyTranscript).committed) hastyBatches.flatten :=
    List.append_nil hastyRemainder
  obtain ⟨_, _, _, -, -, -, -, hlinks, -⟩ :=
    Service.linkBatches_again rfl {} {} hastyBatches [hastyRemainder] yields_hastyTranscript
      smooth_hastyTranscript hagain (hastyClerk.yields_transcript _) (smooth_hastyClerk _)
  have hstored : [hastyRemainder].flatten.filterMap
      (Service.plain.resolver.storedLink (MemoryStore.after [] hastyTranscript)) =
        [(.ofNat 1, .ofNat 0)] := by
    decide +kernel
  rw [hstored] at hlinks
  exact hlinks

/-- A second batch of what two batches have left can link a trace. -/
theorem exists_linked_again :
    ∃ (batches : List (List Trace)) (es es' : List Event) (report report' : BackfillReport),
      (Service.plain.linkBatches 0 .standard {} batches).Yields es (.ok report) ∧
      MemoryStore.Smooth [] es ∧
      (Service.plain.linkPage 0 .standard {}
        (unlinked (committedLinks (Ledger.after 0 {} es).committed) batches.flatten)).Yields es'
          (.ok report') ∧
      MemoryStore.Smooth (MemoryStore.after [] es) es' ∧
      report'.linked = 1 ∧ committedLinks (Ledger.after 0 {} es').committed ≠ [] := by
  let second := Service.plain.linkPage 0 .standard {} hastyRemainder
  have hreport : (hastyClerk.attend second).1 = .ok ⟨0, 1, 0, 0, 0, 0⟩ := by decide +kernel
  have hy : second.Yields (hastyClerk.transcript second) (.ok ⟨0, 1, 0, 0, 0, 0⟩) :=
    hreport ▸ hastyClerk.yields_transcript second
  have hlinked :
      committedLinks (Ledger.after 0 {} (hastyClerk.transcript second)).committed ≠ [] := by
    decide +kernel
  exact ⟨hastyBatches, hastyTranscript, hastyClerk.transcript second, _, _, yields_hastyTranscript,
    smooth_hastyTranscript, hy, smooth_hastyClerk second, rfl, hlinked⟩

end TrafficLens
