import Mathlib.Data.List.Nodup
import TrafficLens.Proofs.Service.Generation

/-!
# Traces over the runs of the generation

A run takes the traces whose times lie in its window, from the time of the document to the beginning
of the run. The windows of the runs that write a document lie side by side, so no trace is folded
into it twice. But a trace is looked for in one window only, that of the first run that has written
the document and has not begun before the trace's time: a trace that was not linked to its endpoint
when that run began is never folded (`folded_once_iff_linked_in_time`).

A `GenerationHistory` is what happens to the tables: runs whose beginnings do not go back in time,
and between them traces and endpoints that come and are linked. After it the time of the document
says which traces are behind its windows, and the runs have folded those that were linked in time
(`Account`).
-/

namespace TrafficLens

/-! ## Tables that grow -/

namespace Archive

variable {a b : Archive}

/-- Is there a trace with this identifier that is linked to the endpoint? -/
def links (a : Archive) (id endpointId : Uuid) : Bool :=
  a.traces.any fun trace => trace.id == id && trace.endpointId == some endpointId

/-- The trace is linked to the endpoint, and the endpoint has no uploaded document. -/
structure Due (a : Archive) (e : Endpoint) (trace : Trace) : Prop where
  mem_endpoints : e ∈ a.endpoints
  undocumented : a.isUndocumented e = true
  mem_traces : trace ∈ a.traces
  linked : trace.endpointId = some e.id

/-- Endpoints and traces come and are linked, and uploaded documents come. What is generated is as
it was. -/
structure Grows (a b : Archive) : Prop where
  persists : a.Persists b
  generated : b.generated? = a.generated?

/-- Traces come, or are linked. -/
theorem grows_traces {traces : List Trace}
    (h : ∀ trace ∈ a.traces, ∃ trace' ∈ traces, trace'.id = trace.id ∧
      trace'.createdAt = trace.createdAt ∧
        ∀ id, trace.endpointId = some id → trace'.endpointId = some id) :
    a.Grows { a with traces } where
  persists :=
    { endpoint := fun e he => ⟨e, he, rfl, rfl, fun _ h => h⟩
      trace := h
      document := fun _ d hd => ⟨d, hd, rfl⟩ }
  generated := rfl

/-! ## The news of a host -/

theorem id_joined (a : Archive) (e : Endpoint) : (a.joined e).id = e.id := rfl

theorem host_joined (a : Archive) (e : Endpoint) : (a.joined e).host = e.host := rfl

theorem nodup_undocumented (ha : a.Sound) : (a.undocumented.map Endpoint.id).Nodup := by
  rw [undocumented, List.map_map]
  exact ha.endpointIds.sublist (List.filter_sublist.map _)

/-- News come with an endpoint that they are linked to. -/
theorem of_mem_news {host : String} {endpoints : List Endpoint} {cutoff : Instant}
    {p : Endpoint × Trace} (h : p ∈ a.news host endpoints cutoff) :
    p.1 ∈ endpoints ∧ p.2.endpointId = some p.1.id := by
  obtain ⟨e, he, hp⟩ := List.mem_flatMap.1 h
  obtain ⟨trace, htrace, rfl⟩ := List.mem_map.1 hp
  have hlinked := (List.mem_filter.1 htrace).2
  rw [Bool.and_eq_true, beq_iff_eq] at hlinked
  exact ⟨he, hlinked.1⟩

theorem map_snd_news (a : Archive) (host : String) (endpoints : List Endpoint)
    (cutoff : Instant) : (a.news host endpoints cutoff).map Prod.snd =
      endpoints.flatMap fun e =>
        a.window e.id ((a.document? (Document.generatedName host)).bind Document.updatedAt)
          cutoff := by
  simp [news, List.map_flatMap, Function.comp_def]

/-- No trace is in the news twice. -/
theorem nodup_news (ha : a.Sound) {host : String} {endpoints : List Endpoint}
    (hendpoints : (endpoints.map Endpoint.id).Nodup) (cutoff : Instant) :
    (((a.news host endpoints cutoff).map Prod.snd).map Trace.id).Nodup := by
  have htraces : a.traces.Nodup := ha.traceIds.of_map
  rw [map_snd_news]
  have hmem : ∀ trace ∈ endpoints.flatMap fun e => a.window e.id
      ((a.document? (Document.generatedName host)).bind Document.updatedAt) cutoff,
      trace ∈ a.traces := by
    intro trace htrace
    obtain ⟨e, -, hwindow⟩ := List.mem_flatMap.1 htrace
    exact (List.mem_filter.1 hwindow).1
  refine List.Nodup.map_on ?_ (List.nodup_flatMap.2 ⟨fun e _ => htraces.filter _, ?_⟩)
  · intro trace htrace other hother hid
    exact List.inj_on_of_nodup_map ha.traceIds (hmem trace htrace) (hmem other hother) hid
  · -- a trace is linked to one endpoint
    refine (List.pairwise_map.1 hendpoints).imp fun {e e'} hne trace htrace htrace' => hne ?_
    have hlinked := (List.mem_filter.1 htrace).2
    have hlinked' := (List.mem_filter.1 htrace').2
    simp only [Bool.and_eq_true, beq_iff_eq] at hlinked hlinked'
    exact Option.some.inj (hlinked.1.symm.trans hlinked'.1)

/-- The rows of one trace agree over time. -/
theorem Due.eq_of_id {e : Endpoint} {trace old : Trace} (h : b.Due e trace) (hb : b.Sound)
    (hab : a.Persists b) (hold : old ∈ a.traces) (hid : old.id = trace.id) :
    old.createdAt = trace.createdAt ∧ ∀ id, old.endpointId = some id → id = e.id := by
  obtain ⟨new, hnew, hnewid, htime, hlink⟩ := hab.trace old hold
  obtain rfl : new = trace :=
    List.inj_on_of_nodup_map hb.traceIds hnew h.mem_traces (hnewid.trans hid)
  exact ⟨htime.symm, fun id hid => Option.some.inj ((hlink id hid).symm.trans h.linked)⟩

/-- An endpoint that has no uploaded document never had one. -/
theorem Due.mem_undocumented {e old : Endpoint} {trace : Trace} (h : b.Due e trace) (ha : a.Sound)
    (hb : b.Sound) (hab : a.Persists b) (hold : old ∈ a.endpoints) (hid : old.id = e.id) :
    a.joined old ∈ a.undocumented.filter fun f => f.host == e.host := by
  obtain ⟨new, hnew, hnewid, hhost, hname⟩ := hab.endpoint old hold
  obtain rfl : new = e :=
    List.inj_on_of_nodup_map hb.endpointIds hnew h.mem_endpoints (hnewid.trans hid)
  refine List.mem_filter.2 ⟨List.mem_map_of_mem (List.mem_filter.2 ⟨hold, ?_⟩), ?_⟩
  · exact hab.isUndocumented ha hold hname h.undocumented
  · rw [host_joined, hhost]
    exact beq_self_eq_true _

/-- A trace is in the news of its host if it is linked and its time is in the window. -/
theorem Due.mem_news_iff {e : Endpoint} {trace : Trace} (h : b.Due e trace) (ha : a.Sound)
    (hb : b.Sound) (hab : a.Persists b) (cutoff : Instant) :
    trace.id ∈ ((a.news e.host (a.undocumented.filter fun f => f.host == e.host) cutoff).map
        Prod.snd).map Trace.id ↔
      inWindow ((a.document? (Document.generatedName e.host)).bind Document.updatedAt) cutoff
        trace.createdAt = true ∧ a.links trace.id e.id = true := by
  rw [map_snd_news, links, List.any_eq_true]
  constructor
  · intro hnews
    obtain ⟨old, hold, hid⟩ := List.mem_map.1 hnews
    obtain ⟨f, -, hwindow⟩ := List.mem_flatMap.1 hold
    obtain ⟨hold, hwindow⟩ := List.mem_filter.1 hwindow
    rw [Bool.and_eq_true, beq_iff_eq] at hwindow
    obtain ⟨htime, hlink⟩ := h.eq_of_id hb hab hold hid
    refine ⟨htime ▸ hwindow.2, old, hold, ?_⟩
    rw [hid, hwindow.1, hlink f.id hwindow.1, beq_self_eq_true, beq_self_eq_true]
    rfl
  · rintro ⟨hwindow, old, hold, hlink⟩
    rw [Bool.and_eq_true, beq_iff_eq, beq_iff_eq] at hlink
    obtain ⟨f, hf, hid⟩ := ha.traceEndpoint old hold e.id hlink.2
    refine List.mem_map.2 ⟨old, List.mem_flatMap.2 ⟨a.joined f, ?_, ?_⟩, hlink.1⟩
    · exact h.mem_undocumented ha hb hab hf hid
    · refine List.mem_filter.2 ⟨hold, ?_⟩
      rw [id_joined, hid, hlink.2, beq_self_eq_true, (h.eq_of_id hb hab hold hlink.1).1]
      exact hwindow

theorem Due.count_news {e : Endpoint} {trace : Trace} (h : b.Due e trace) (ha : a.Sound)
    (hb : b.Sound) (hab : a.Persists b) (cutoff : Instant) :
    (((a.news e.host (a.undocumented.filter fun f => f.host == e.host) cutoff).map
        Prod.snd).map Trace.id).count trace.id =
      (inWindow ((a.document? (Document.generatedName e.host)).bind Document.updatedAt) cutoff
        trace.createdAt && a.links trace.id e.id).toNat := by
  have hendpoints : ((a.undocumented.filter fun f => f.host == e.host).map Endpoint.id).Nodup :=
    (nodup_undocumented ha).sublist (List.filter_sublist.map _)
  have hiff := (h.mem_news_iff ha hb hab cutoff).trans (Bool.and_eq_true _ _).symm.to_iff
  rw [List.Nodup.count (nodup_news ha hendpoints cutoff)]
  cases hnews : inWindow ((a.document? (Document.generatedName e.host)).bind
      Document.updatedAt) cutoff trace.createdAt && a.links trace.id e.id with
  | true => exact if_pos (hiff.2 hnews)
  | false => exact if_neg fun hin => Bool.false_ne_true (hnews.symm.trans (hiff.1 hin))

end Archive

/-! ## What documents are made of -/

/-- The tree is made by merging the traces into a new one, each with an endpoint of the host that it
is linked to. -/
def Document.MadeOf (host : String) (traces : List Trace) (tree : Json) : Prop :=
  ∃ rows : List (Endpoint × Trace), tree = mergeRows (generated host).spec rows ∧
    rows.map Prod.snd = traces ∧ ∀ p ∈ rows, p.1.host = host ∧ p.2.endpointId = some p.1.id

theorem Document.madeOf_nil (host : String) : MadeOf host [] (generated host).spec :=
  ⟨[], rfl, rfl, fun _ hp => absurd hp List.not_mem_nil⟩

theorem Document.MadeOf.append {host : String} {traces : List Trace} {tree : Json}
    (h : MadeOf host traces tree) {rows : List (Endpoint × Trace)}
    (hrows : ∀ p ∈ rows, p.1.host = host ∧ p.2.endpointId = some p.1.id) :
    MadeOf host (traces ++ rows.map Prod.snd) (mergeRows tree rows) := by
  obtain ⟨before, rfl, rfl, hbefore⟩ := h
  refine ⟨before ++ rows, ?_, List.map_append, List.forall_mem_append.2 ⟨hbefore, hrows⟩⟩
  rw [mergeRows, mergeRows, mergeRows, List.foldl_append]

/-! ## Runs -/

/-- A run of the generation on some tables, in which every reply says what is in them. -/
structure GenerationRun (s : Service) (t : Tenant) where
  archive : Archive
  cutoff : Instant
  connection : ConnectionId
  checkout : Except DatabaseError ConnectionId
  events : List Event
  outcome : Except Failure GenerationReport
  sound : archive.Sound
  connected : ∀ c, checkout = .ok c → c = connection
  yields :
    (s.generate t).Yields (⟨.now, cutoff⟩ :: ⟨.checkout, checkout⟩ :: events) outcome
  truthful : Journal.Truthful connection { archive } events

namespace GenerationRun

variable {s : Service} {t : Tenant}

/-- The run that an archivist replies to. -/
def answered (s : Service) (t : Tenant) (now : Instant) (archive : Archive)
    (sound : archive.Sound) : GenerationRun s t :=
  let k : Archivist := ⟨now, { archive }⟩
  let p := (s.generate t).run
  { archive, sound
    cutoff := now
    connection := 0
    checkout := .ok 0
    events := (Program.transcript Archivist.reply p k).drop 2
    outcome := (Program.run Archivist.reply p k).1
    connected := fun _ h => (Except.ok.inj h).symm
    yields := Program.yields_transcript Archivist.reply p k
    truthful := (k.truthful_transcript p).2.2 }

/-- What the run has done. -/
def journal (r : GenerationRun s t) : Journal :=
  Journal.after r.connection { archive := r.archive } r.events

/-- Has the run ended well? -/
def Succeeds (r : GenerationRun s t) : Prop := ∃ report, r.outcome = .ok report

/-- The traces that were folded into a document. -/
def folded (r : GenerationRun s t) (name : String) : List Trace := r.journal.foldedInto name

/-- Has the run written a document, and not begun before a time? -/
def takes (r : GenerationRun s t) (name : String) (time : Instant) : Bool :=
  decide (name ∈ r.journal.saved) && decide (time.stamp ≤ r.cutoff.toColumn.stamp)

theorem refresh (r : GenerationRun s t) (host : String) :
    Refresh r.cutoff host (r.archive.undocumented.filter fun e => e.host == host) r.Succeeds
      { archive := r.archive } r.journal :=
  Service.generate_refreshes r.yields r.connected r.truthful host

/-- A run that has kept a document has not touched it. -/
theorem kept_spec {r : GenerationRun s t} {name : String}
    (h : Journal.Apart name { archive := r.archive } r.journal) (time : Instant) :
    r.folded name = [] ∧ r.takes name time = false := by
  have hsaved : name ∉ r.journal.saved := fun hin => nomatch h.saved.1 hin
  refine ⟨h.folded, ?_⟩
  rw [takes, decide_eq_false hsaved, Bool.false_and]

theorem persists (r : GenerationRun s t) : r.archive.Persists r.journal.archive :=
  Journal.persists_after (j := { archive := r.archive }) r.events

end GenerationRun

/-! ## Histories -/

/-- What happens to the tables: at first no document is generated, then runs of the generation,
which do not go back in time, and growth in any order. -/
inductive GenerationHistory (s : Service) (t : Tenant) :
    List (GenerationRun s t) → Archive → Prop
  | start {a : Archive} (h : ∀ d ∈ a.documents, d.isGenerated = false) : GenerationHistory s t [] a
  | grow {runs : List (GenerationRun s t)} {a b : Archive} (h : GenerationHistory s t runs a)
      (hgrows : a.Grows b) : GenerationHistory s t runs b
  | run {runs : List (GenerationRun s t)} (r : GenerationRun s t)
      (h : GenerationHistory s t runs r.archive)
      (hcutoff : ∀ r' ∈ runs, r'.cutoff.stamp ≤ r.cutoff.stamp) :
      GenerationHistory s t (runs ++ [r]) r.journal.archive

namespace GenerationHistory

variable {s : Service} {t : Tenant} {runs : List (GenerationRun s t)} {a b : Archive}

/-- The traces that were folded into a document by the runs. -/
def folded (runs : List (GenerationRun s t)) (name : String) : List Trace :=
  runs.flatMap fun r => r.folded name

theorem folded_append (r : GenerationRun s t) (name : String) :
    folded (runs ++ [r]) name = folded runs name ++ r.folded name := by
  simp [folded]

/-- How often was a trace folded into a document? -/
def foldings (runs : List (GenerationRun s t)) (name : String) (id : Uuid) : Nat :=
  ((folded runs name).map Trace.id).count id

/-- The first run that has written a document and has not begun before a time. -/
def taker? (runs : List (GenerationRun s t)) (name : String) (time : Instant) :
    Option (GenerationRun s t) :=
  runs.find? fun r => r.takes name time

/-- What was there for a run is still there. -/
theorem persists (h : GenerationHistory s t runs a) : ∀ r ∈ runs, r.archive.Persists a := by
  induction h with
  | start h => exact fun r hr => absurd hr List.not_mem_nil
  | grow h hgrows ih => exact fun r hr => (ih r hr).trans hgrows.persists
  | run r h hcutoff ih =>
    intro r' hr'
    rcases List.mem_append.1 hr' with hr' | hr'
    · exact (ih r' hr').trans r.persists
    · obtain rfl := List.mem_singleton.1 hr'
      exact r'.persists

theorem generated?_start (h : ∀ d ∈ a.documents, d.isGenerated = false) (name : String) :
    a.generated? name = none := by
  refine Option.eq_none_iff_forall_ne_some.2 fun d hd => ?_
  obtain ⟨hd, hgenerated⟩ := Archive.generated?_eq_some.1 hd
  rw [h d (List.mem_of_find?_eq_some hd)] at hgenerated
  cases hgenerated

/-- **The generated document of a host is made of the traces that were folded into it.** -/
theorem madeOf_folded (h : GenerationHistory s t runs a) (host : String) :
    Document.MadeOf host (folded runs (Document.generatedName host))
      ((a.generated? (Document.generatedName host)).getD (.generated host)).spec := by
  induction h with
  | start h =>
    rw [generated?_start h]
    exact Document.madeOf_nil host
  | grow h hgrows ih =>
    rw [hgrows.generated]
    exact ih
  | run r h hcutoff ih =>
    rw [folded_append]
    cases r.refresh host with
    | kept hapart hdone =>
      rw [GenerationRun.folded, hapart.folded, Archive.generated?, hapart.document]
      exact (List.append_nil _).symm ▸ ih
    | written document rows hold hstored hgenerated htime hspec hnews hsaved hfolded =>
      rw [Archive.generated?_eq_document? hold] at ih
      rw [Archive.generated?_eq_some.2 ⟨hstored, hgenerated⟩, GenerationRun.folded, hfolded,
        Option.getD_some, hspec]
      refine ih.append fun p hp => ?_
      obtain ⟨he, hlinked⟩ := Archive.of_mem_news (hnews.mem_iff.1 hp)
      exact ⟨beq_iff_eq.1 (List.mem_filter.1 he).2, hlinked⟩

/-- What the runs have done with a trace, told by the document: the first run that takes its time
has folded it if it was linked, and the time of the document says if there was such a run. -/
structure Account (runs : List (GenerationRun s t)) (a : Archive) (name : String)
    (id endpointId : Uuid) (time : Instant) : Prop where
  count : foldings runs name id =
    (taker? runs name time).elim 0 fun r => (r.archive.links id endpointId).toNat
  since : (((a.generated? name).bind Document.updatedAt).all fun u =>
    decide (u.toColumn.stamp < time.stamp)) = (taker? runs name time).isNone

section

variable {name : String} {id endpointId : Uuid} {time : Instant}

theorem foldings_append (r : GenerationRun s t) :
    foldings (runs ++ [r]) name id =
      foldings runs name id + ((r.folded name).map Trace.id).count id := by
  rw [foldings, folded_append, List.map_append, List.count_append, foldings]

theorem taker?_append (r : GenerationRun s t) :
    taker? (runs ++ [r]) name time =
      (taker? runs name time).or (if r.takes name time then some r else none) := by
  rw [taker?, taker?, List.find?_append, List.find?_singleton]

/-- A run that has kept the document keeps the account. -/
theorem Account.kept {r : GenerationRun s t}
    (h : Account runs r.archive name id endpointId time)
    (hapart : Journal.Apart name { archive := r.archive } r.journal) :
    Account (runs ++ [r]) r.journal.archive name id endpointId time := by
  obtain ⟨hfolded, htakes⟩ := GenerationRun.kept_spec hapart time
  have htaker : taker? (runs ++ [r]) name time = taker? runs name time := by
    rw [taker?_append, htakes, if_neg Bool.false_ne_true, Option.or_none]
  refine ⟨?_, ?_⟩
  · rw [foldings_append, hfolded, htaker]
    exact h.count
  · rw [htaker, Archive.generated?, hapart.document]
    exact h.since

/-- A run that writes the document keeps the account: what it folds is in its window, which begins
where those of the runs before it have ended. -/
theorem Account.written {r : GenerationRun s t} {document : Document}
    (h : Account runs r.archive name id endpointId time)
    (hcutoff : ∀ r' ∈ runs, r'.cutoff.stamp ≤ r.cutoff.stamp) (hsaved : name ∈ r.journal.saved)
    (hcount : ((r.folded name).map Trace.id).count id =
      (Archive.inWindow ((r.archive.generated? name).bind Document.updatedAt) r.cutoff time &&
        r.archive.links id endpointId).toNat)
    (hstored : r.journal.archive.generated? name = some document)
    (hupdatedAt : document.updatedAt = some r.cutoff.toColumn) :
    Account (runs ++ [r]) r.journal.archive name id endpointId time := by
  have htakes : r.takes name time = decide (time.stamp ≤ r.cutoff.toColumn.stamp) := by
    rw [GenerationRun.takes, decide_eq_true hsaved, Bool.true_and]
  -- a run that begins after one that takes the time takes it, too
  have hlate : ∀ r', taker? runs name time = some r' →
      time.stamp ≤ r.cutoff.toColumn.stamp := by
    intro r' hr'
    have hle := hcutoff r' (List.mem_of_find?_eq_some hr')
    have htook := List.find?_some hr'
    rw [GenerationRun.takes, Bool.and_eq_true, decide_eq_true_eq, decide_eq_true_eq] at htook
    exact Int.le_trans htook.2 (Instant.stamp_toColumn_le hle)
  rw [Archive.inWindow, h.since, ← htakes] at hcount
  refine ⟨?_, ?_⟩
  · rw [foldings_append, taker?_append, h.count, hcount]
    cases taker? runs name time with
    | some r' => simp
    | none =>
      cases r.takes name time with
      | true => simp
      | false => simp
  · rw [hstored, Option.bind_some, hupdatedAt, Option.all_some, Instant.stamp_toColumn_toColumn,
      taker?_append, htakes]
    cases htaker : taker? runs name time with
    | some r' => exact decide_eq_false (Int.not_lt.2 (hlate r' htaker))
    | none =>
      by_cases hle : time.stamp ≤ r.cutoff.toColumn.stamp
      · rw [decide_eq_false (Int.not_lt.2 hle), decide_eq_true hle]
        rfl
      · rw [decide_eq_true (Int.not_le.1 hle), decide_eq_false hle]
        rfl

end

/-- **A run keeps the account.** -/
theorem Account.run (r : GenerationRun s t) {e : Endpoint} {trace : Trace} (hdue : b.Due e trace)
    (hb : b.Sound) (hab : r.archive.Persists b)
    (hcutoff : ∀ r' ∈ runs, r'.cutoff.stamp ≤ r.cutoff.stamp)
    (h : Account runs r.archive (Document.generatedName e.host) trace.id e.id trace.createdAt) :
    Account (runs ++ [r]) r.journal.archive (Document.generatedName e.host) trace.id e.id
      trace.createdAt := by
  cases r.refresh e.host with
  | kept hapart hdone => exact h.kept hapart
  | written document rows hold hstored hgenerated htime hspec hnews hsaved hfolded =>
    refine h.written hcutoff hsaved ?_ (Archive.generated?_eq_some.2 ⟨hstored, hgenerated⟩) htime
    have hperm := (hnews.map Prod.snd).map Trace.id
    rw [GenerationRun.folded, hfolded, Archive.generated?_eq_document? hold]
    exact (hperm.count_eq trace.id).trans (hdue.count_news r.sound hb hab r.cutoff)

/-- **After any history the account of a trace is right.** -/
theorem account (h : GenerationHistory s t runs a) {e : Endpoint} {trace : Trace}
    (hdue : b.Due e trace) (hb : b.Sound) (hpersists : ∀ r ∈ runs, r.archive.Persists b) :
    Account runs a (Document.generatedName e.host) trace.id e.id trace.createdAt := by
  induction h with
  | start h =>
    refine ⟨rfl, ?_⟩
    rw [generated?_start h]
    rfl
  | grow h hgrows ih => exact ⟨(ih hpersists).count, hgrows.generated ▸ (ih hpersists).since⟩
  | run r h hcutoff ih =>
    obtain ⟨hbefore, hr⟩ := List.forall_mem_append.1 hpersists
    exact (ih hbefore).run r hdue hb (hr r List.mem_cons_self) hcutoff

/-- Only an uploaded document keeps a run that ends well from taking a time before it. -/
theorem exists_uploaded_of_taker?_eq_none {last : GenerationRun s t} {e : Endpoint}
    {trace : Trace} (h : Account runs last.archive (Document.generatedName e.host) trace.id e.id
      trace.createdAt) (hlast : last.Succeeds) (hdue : last.archive.Due e trace)
    (htime : trace.createdAt.stamp ≤ last.cutoff.stamp)
    (hnone : taker? (runs ++ [last]) (Document.generatedName e.host) trace.createdAt = none) :
    ∃ d, last.archive.document? (Document.generatedName e.host) = some d ∧
      d.isGenerated = false := by
  have hcolumn : trace.createdAt.stamp ≤ last.cutoff.toColumn.stamp := by
    have hle := Instant.stamp_toColumn_le htime
    rwa [last.sound.createdAt trace hdue.mem_traces] at hle
  obtain ⟨hnever, hkept⟩ := Option.or_eq_none_iff.1 ((taker?_append last).symm.trans hnone)
  cases last.refresh e.host with
  | kept hapart hdone =>
    obtain ⟨d, hd, hwindow⟩ := hdone hlast _
      (hdue.mem_undocumented last.sound last.sound (.refl _) hdue.mem_endpoints rfl)
    refine ⟨d, hd, ?_⟩
    -- the trace would have been in the window of a generated document
    by_contra hgenerated
    rw [Bool.not_eq_false] at hgenerated
    have hsince := h.since
    rw [Archive.generated?_eq_some.2 ⟨hd, hgenerated⟩, hnever] at hsince
    have hin : trace ∈ last.archive.window e.id d.updatedAt last.cutoff := by
      refine List.mem_filter.2 ⟨hdue.mem_traces, ?_⟩
      rw [hdue.linked, beq_self_eq_true, Archive.inWindow, decide_eq_true hcolumn]
      exact congrArg (· && true) hsince
    rw [← Archive.id_joined last.archive e, hwindow hgenerated] at hin
    cases hin
  | written document rows hold hstored hgenerated htime hspec hnews hsaved hfolded =>
    have htakes : last.takes (Document.generatedName e.host) trace.createdAt = true := by
      rw [GenerationRun.takes, decide_eq_true hsaved, decide_eq_true hcolumn]
      rfl
    rw [if_pos htakes] at hkept
    cases hkept

/-- **No trace is folded twice, and it is folded exactly if it was linked in time**: when the first
run began that has written the document of its host and has not begun before the trace's time. After
a run that has ended well there is such a run, and the document is made of what was folded, unless
an uploaded document has its name. -/
theorem folded_once_iff_linked_in_time {last : GenerationRun s t}
    (h : GenerationHistory s t runs last.archive)
    (hcutoff : ∀ r ∈ runs, r.cutoff.stamp ≤ last.cutoff.stamp) (hlast : last.Succeeds)
    {e : Endpoint} {trace : Trace} (hdue : last.archive.Due e trace)
    (htime : trace.createdAt.stamp ≤ last.cutoff.stamp) :
    let name := Document.generatedName e.host
    let all := runs ++ [last]
    foldings all name trace.id ≤ 1 ∧
      (foldings all name trace.id = 1 ↔ ∃ r, taker? all name trace.createdAt = some r ∧
        r.archive.links trace.id e.id = true) ∧
      ((∃ d, last.archive.document? name = some d ∧ d.isGenerated = false) ∨
        (taker? all name trace.createdAt).isSome = true ∧
          ∃ d, last.journal.archive.generated? name = some d ∧
            Document.MadeOf e.host (folded all name) d.spec) := by
  intro name all
  have hbefore := account h hdue last.sound h.persists
  have hafter := hbefore.run last hdue last.sound (.refl _) hcutoff
  have hmade := madeOf_folded (.run last h hcutoff) e.host
  refine ⟨?_, ?_, ?_⟩
  · rw [hafter.count]
    cases taker? all name trace.createdAt with
    | none => exact Nat.zero_le 1
    | some r => exact Bool.toNat_le _
  · rw [hafter.count]
    cases taker? all name trace.createdAt with
    | none => simp
    | some r => simp
  · have hsince := hafter.since
    cases htaker : taker? all name trace.createdAt with
    | none => exact .inl (exists_uploaded_of_taker?_eq_none hbefore hlast hdue htime htaker)
    | some r =>
      rw [htaker] at hsince
      cases hd : last.journal.archive.generated? name with
      | none =>
        rw [hd] at hsince
        cases hsince
      | some d =>
        rw [hd] at hmade
        exact .inr ⟨rfl, d, rfl, hmade⟩

/-! ## A trace that is linked too late -/

/-- An endpoint without a document. -/
def bareEndpoint : Endpoint :=
  .ofTemplate (.ofNat 1) "api.local" "GET" ⟨"/users", "^/users(/)*$", 0, false⟩

/-- The endpoint with its generated document. -/
def servedEndpoint : Endpoint :=
  { bareEndpoint with documentName := some (Document.generatedName "api.local") }

/-- A trace of the endpoint that is linked early. -/
def promptTrace : Trace :=
  { Trace.bare (.ofNat 2) ⟨40, 0⟩ "api.local" "GET" "/users" 200 with
    endpointId := some bareEndpoint.id }

/-- A trace of the endpoint that is stored early, and may be linked. -/
def lateTrace (endpointId : Option Uuid) : Trace :=
  { Trace.bare (.ofNat 3) ⟨50, 0⟩ "api.local" "GET" "/users" 200 with endpointId }

/-- A run that begins when one of the traces is linked. -/
def earlyRun : GenerationRun .plain .standard :=
  .answered _ _ ⟨100, 0⟩ { endpoints := [bareEndpoint], traces := [promptTrace, lateTrace none] }
    (by decide +kernel)

/-- A run that begins when both of them are. -/
def lateRun : GenerationRun .plain .standard :=
  .answered _ _ ⟨200, 0⟩
    { earlyRun.journal.archive with
      traces := [promptTrace, lateTrace (some bareEndpoint.id)] } (by decide +kernel)

theorem history_lateRun : GenerationHistory .plain .standard [earlyRun] lateRun.archive := by
  have hstart : GenerationHistory .plain .standard [] earlyRun.archive :=
    .start fun d hd => absurd hd List.not_mem_nil
  have hrun : GenerationHistory .plain .standard [earlyRun] earlyRun.journal.archive :=
    .run earlyRun hstart fun r hr => absurd hr List.not_mem_nil
  refine hrun.grow (Archive.grows_traces fun trace htrace => ?_)
  rw [GenerationRun.journal, Journal.traces_after] at htrace
  rcases List.mem_pair.1 htrace with rfl | rfl
  · exact ⟨promptTrace, List.mem_cons_self, rfl, rfl, fun _ h => h⟩
  · exact ⟨lateTrace (some bareEndpoint.id), List.mem_cons_of_mem _ List.mem_cons_self, rfl, rfl,
      nofun⟩

/-- The trace that is linked early is folded once. The other one is never folded, although both
runs begin after it and the last one ends well. -/
theorem folded_once_iff_linked_in_time_late :
    let late := lateTrace (some bareEndpoint.id)
    GenerationHistory .plain .standard [earlyRun] lateRun.archive ∧ lateRun.Succeeds ∧
      lateRun.archive.Due servedEndpoint promptTrace ∧ lateRun.archive.Due servedEndpoint late ∧
      foldings [earlyRun, lateRun] (Document.generatedName "api.local") promptTrace.id = 1 ∧
      foldings [earlyRun, lateRun] (Document.generatedName "api.local") late.id = 0 := by
  intro late
  have hcutoff : ∀ r ∈ [earlyRun], r.cutoff.stamp ≤ lateRun.cutoff.stamp := by
    intro r hr
    obtain rfl := List.mem_singleton.1 hr
    decide
  have hlast : lateRun.Succeeds := ⟨⟨1, 0, 0, 0⟩, by decide +kernel⟩
  have hprompt : lateRun.archive.Due servedEndpoint promptTrace :=
    ⟨by decide +kernel, by decide +kernel, List.mem_cons_self, rfl⟩
  have hlate : lateRun.archive.Due servedEndpoint late :=
    ⟨hprompt.mem_endpoints, hprompt.undocumented, List.mem_cons_of_mem _ List.mem_cons_self, rfl⟩
  have htaker : ∀ time : Instant, earlyRun.takes (Document.generatedName "api.local") time = true →
      taker? [earlyRun, lateRun] (Document.generatedName "api.local") time = some earlyRun :=
    fun time h => List.find?_cons_of_pos h
  refine ⟨history_lateRun, hlast, hprompt, hlate, ?_, ?_⟩
  · refine (folded_once_iff_linked_in_time history_lateRun hcutoff hlast hprompt
      (by decide)).2.1.2 ⟨earlyRun, htaker _ (by decide +kernel), by decide +kernel⟩
  · obtain ⟨hle, hiff, -⟩ :=
      folded_once_iff_linked_in_time history_lateRun hcutoff hlast hlate (by decide)
    have hne : foldings [earlyRun, lateRun] (Document.generatedName "api.local") late.id ≠ 1 := by
      intro hone
      obtain ⟨r, hr, hlinks⟩ := hiff.1 hone
      obtain rfl := Option.some.inj ((htaker ⟨50, 0⟩ (by decide +kernel)).symm.trans hr)
      exact absurd hlinks (by decide +kernel)
    exact Nat.lt_one_iff.1 (Nat.lt_of_le_of_ne hle hne)

end GenerationHistory

end TrafficLens
