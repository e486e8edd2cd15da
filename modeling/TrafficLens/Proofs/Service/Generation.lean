import TrafficLens.Proofs.Dict
import TrafficLens.Proofs.Service.Journal
import TrafficLens.Service.Generation

/-!
# What a run of the generation does

A run treats the hosts one after another. For each it either leaves everything as it is, or folds
what it has fetched into the document of the host and saves it (`HostEffect`). The saved tree is the
old one with the fetched traces merged into it, and what was fetched is the window of the host's
endpoints from the last time of the document to the beginning of the run.

Seen from one host, a run is what was done for that host, and nothing else
(`generate_refreshes`): the document is kept, and then there was no news for it if the run has
succeeded, or it is written with the window of its endpoints (`Refresh`).
-/

namespace TrafficLens

open Attempt Ledger

/-! ## Endpoints by host -/

theorem endpointsByHost_append (rows : List Endpoint) (e : Endpoint) :
    endpointsByHost (rows ++ [e]) =
      Dict.alter e.host (fun old => old.getD [] ++ [e]) (endpointsByHost rows) := by
  rw [endpointsByHost, List.foldl_append]
  rfl

theorem ordered_endpointsByHost (rows : List Endpoint) : Dict.Ordered (endpointsByHost rows) := by
  induction rows using List.reverseRecOn with
  | nil => exact Dict.ordered_nil
  | append_singleton rows e ih =>
    rw [endpointsByHost_append]
    exact Dict.ordered_alter _ _ ih

theorem seek?_endpointsByHost (rows : List Endpoint) (host : String) :
    (Dict.seek? host (endpointsByHost rows)).getD [] = rows.filter fun e => e.host == host := by
  induction rows using List.reverseRecOn with
  | nil => rfl
  | append_singleton rows e ih =>
    rw [endpointsByHost_append, List.filter_append, ← ih]
    by_cases h : host = e.host
    · subst h
      rw [Dict.seek?_alter_self]
      simp
    · rw [Dict.seek?_alter_of_ne h]
      simp [Ne.symm h]

/-- A group holds the endpoints of its host. -/
theorem group_eq_filter {rows : List Endpoint} {host : String} {group : List Endpoint}
    (h : (host, group) ∈ endpointsByHost rows) :
    group = rows.filter fun e => e.host == host := by
  rw [(ordered_endpointsByHost rows).mem_iff] at h
  rw [← seek?_endpointsByHost, h]
  rfl

/-- A host without a group has no endpoints. -/
theorem filter_eq_nil_of_notMem {rows : List Endpoint} {host : String}
    (h : host ∉ Dict.keys (endpointsByHost rows)) :
    (rows.filter fun e => e.host == host) = [] := by
  rw [← seek?_endpointsByHost]
  cases hseek : Dict.seek? host (endpointsByHost rows) with
  | none => rfl
  | some group => exact absurd (List.mem_map_of_mem (Dict.mem_of_seek? hseek)) h

/-! ## What is done for one host -/

/-- A tree with some traces merged into it, each with its endpoint. -/
def Document.mergeRows (tree : Json) (rows : List (Endpoint × Trace)) : Json :=
  rows.foldl (fun doc p => (mergeTrace doc p.1 p.2).2) tree

/-- There is no news for the document of a host: it is an uploaded one, or nothing new is in the
windows of the endpoints. -/
def Archive.UpToDate (a : Archive) (host : String) (endpoints : List Endpoint)
    (cutoff : Instant) : Prop :=
  ∀ e ∈ endpoints, ∃ d, a.document? (Document.generatedName host) = some d ∧
    (d.isGenerated = true → a.window e.id d.updatedAt cutoff = [])

/-- The new traces of some endpoints for the document of a host, each with its endpoint. -/
def Archive.news (a : Archive) (host : String) (endpoints : List Endpoint)
    (cutoff : Instant) : List (Endpoint × Trace) :=
  endpoints.flatMap fun e =>
    (a.window e.id ((a.document? (Document.generatedName host)).bind Document.updatedAt)
      cutoff).map fun trace => (e, trace)

/-- What is done for one host: the document is kept, and there is no news for it if all went well,
or it is written with the news. -/
inductive HostEffect (cutoff : Instant) (host : String) (endpoints : List Endpoint)
    (finished : Prop) (j j' : Journal) : Prop
  | kept (archive : j'.archive = j.archive) (saved : j'.saved = j.saved)
      (folded : j'.folded = j.folded)
      (done : finished → j.archive.UpToDate host endpoints cutoff)
  | written (document : Document) (rows : List (Endpoint × Trace))
      (name : document.name = Document.generatedName host)
      (old : ∀ d, j.archive.document? (Document.generatedName host) = some d →
        d.isGenerated = true)
      (updatedAt : document.updatedAt = some cutoff)
      (spec : document.spec = Document.mergeRows
        ((j.archive.document? (Document.generatedName host)).getD (.generated host)).spec rows)
      (news : rows.Perm (j.archive.news host endpoints cutoff))
      (archive : j'.archive = (j.archive.save document).link document.name host)
      (saved : j'.saved = j.saved ++ [document.name])
      (folded : j'.folded = j.folded ++
        (rows.map Prod.snd).map fun trace => (document.name, trace))

/-- What was fetched before does not matter. -/
theorem HostEffect.of_fetched {cutoff : Instant} {host : String} {endpoints : List Endpoint}
    {finished : Prop} {j j' : Journal} {traces : List Trace}
    (h : HostEffect cutoff host endpoints finished { j with fetched := traces } j') :
    HostEffect cutoff host endpoints finished j j' := by
  cases h with
  | kept harchive hsaved hfolded hdone => exact .kept harchive hsaved hfolded hdone
  | written document rows hname hold htime hspec hnews harchive hsaved hfolded =>
    exact .written document rows hname hold htime hspec hnews harchive hsaved hfolded

namespace Service

variable {s : Service} {c : ConnectionId} {t : Tenant} {cutoff : Instant} {j : Journal}
  {es : List Event}

/-- Whatever is fetched is merged, in the order in which it is fetched. -/
theorem mergeEndpoints_spec {since : Option Instant} {tree : Json} {merged : Nat}
    {endpoints : List Endpoint} {x : Except Failure (Json × Nat)}
    (hy : (mergeEndpoints c t since cutoff tree merged endpoints).Yields es x)
    (hj : j.ledger.levels = []) (hes : j.Truthful c es) :
    ∃ rows : List (Endpoint × Trace),
      j.after c es = { j with fetched := j.fetched ++ rows.map Prod.snd } ∧
      ∀ v, x = .ok v → v = (Document.mergeRows tree rows, merged + rows.length) ∧
        rows.Perm (endpoints.flatMap fun e =>
          (j.archive.window e.id since cutoff).map fun trace => (e, trace)) := by
  induction endpoints generalizing tree merged j es with
  | nil =>
    obtain ⟨rfl, rfl⟩ := yields_pure.1 hy
    refine ⟨[], by simp, fun v hv => ⟨(Except.ok.inj hv).symm, .refl _⟩⟩
  | cons e endpoints ih =>
    obtain ⟨f, rfl, hfetch⟩ | ⟨es₁, es₂, traces, rfl, hfetch, hrest⟩ := yields_bind.1 hy
    · obtain ⟨reply, rfl, hreply⟩ := yields_send.1 hfetch
      cases reply with
      | ok rows => cases hreply
      | error err =>
        refine ⟨[], ?_, nofun⟩
        rw [Journal.after_cons, Journal.note_command hj]
        simp [Event.fetched]
    · obtain ⟨reply, rfl, hreply⟩ := yields_send.1 hfetch
      cases reply with
      | error err => cases hreply
      | ok rows =>
        obtain rfl := Except.ok.inj hreply
        obtain ⟨⟨hanswer, -⟩, hes₂⟩ := Journal.truthful_append.1 hes
        have htraces : List.Perm traces (j.archive.window e.id since cutoff) := hanswer
        rw [Journal.after_cons, Journal.note_command hj, Journal.after_nil] at hes₂
        obtain ⟨others, hafter, hothers⟩ := ih hrest (by exact hj) hes₂
        refine ⟨List.map (fun trace => (e, trace)) traces ++ others, ?_, fun v hv => ?_⟩
        · rw [List.singleton_append, Journal.after_cons, Journal.note_command hj, hafter]
          simp [Event.fetched, Function.comp_def]
        · obtain ⟨rfl, hperm⟩ := hothers v hv
          refine ⟨?_, (htraces.map _).append hperm⟩
          simp [Document.mergeRows, List.foldl_map, Nat.add_assoc]

/-- A document is saved and linked, or nothing is done. -/
theorem saveDocument_spec {document : Document} {host : String} {x : Except Failure Unit}
    (hy : (s.saveDocument c t document host).Yields es x) (hj : j.ledger.levels = []) :
    (j.after c es).ledger.levels = [] ∧
      ((∃ f, x = .error f) ∧
          j.after c es = { j with ledger := (j.after c es).ledger } ∨
        x = .ok () ∧ j.after c es =
          { archive := (j.archive.save document).link document.name host
            ledger := (j.after c es).ledger
            fetched := j.fetched
            saved := j.saved ++ [document.name]
            folded := j.folded ++ j.fetched.map fun trace => (document.name, trace) }) := by
  have hbody := (adds_step (s := s) (c := c) (t := t) (.saveDocument document)).bind fun _ =>
    adds_step (s := s) (c := c) (t := t) (.linkDocument document.name host)
  have hsilent : Asks Request.Silent (s.saveDocument c t document host) := by
    have hstep : ∀ command, Request.Silent (.command (.held c) t command) →
        Asks Request.Silent (s.step c t command) := fun command h =>
      Asks.retryStep trivial trivial trivial (fun _ => trivial)
        ((asks_send h).bind fun _ => asks_pure ())
    exact Asks.transaction trivial trivial trivial
      ((hstep (.saveDocument document) trivial).bind fun _ =>
        hstep (.linkDocument document.name host) trivial)
  obtain ⟨archive, ⟨levels, closed⟩, fetched, saved, folded⟩ := j
  obtain rfl : levels = [] := hj
  rcases after_transaction hbody hy with
    ⟨_, work, rfl, ⟨_, _, _, rfl, ⟨n, rfl⟩, ⟨m, rfl⟩⟩, -, hafter⟩ | ⟨f, rfl, hafter⟩
  · rw [Journal.after_of_silent (hsilent hy) (by rw [hafter])]
    refine ⟨by rw [hafter], .inr ⟨rfl, ?_⟩⟩
    simp [Journal.commit, Archive.settle, Archive.apply, Sent.savedName?]
  · rw [Journal.after_of_silent (hsilent hy) (by rw [hafter])]
    refine ⟨by rw [hafter], .inl ⟨⟨f, rfl⟩, ?_⟩⟩
    simp [Journal.commit, Archive.settle]

/-- What is done once the news are merged. -/
theorem saveHost_effect (document : Document) {host : String} {endpoints : List Endpoint}
    {rows : List (Endpoint × Trace)} {report : GenerationReport}
    {x : Except Failure GenerationReport} (hname : document.name = Document.generatedName host)
    (hold : ∀ d, j.archive.document? (Document.generatedName host) = some d →
      d.isGenerated = true)
    (htime : document.updatedAt = some cutoff)
    (hspec : document.spec = Document.mergeRows
      ((j.archive.document? (Document.generatedName host)).getD (.generated host)).spec rows)
    (hnews : rows.Perm (j.archive.news host endpoints cutoff))
    (hy : Attempt.Yields (do
      s.saveDocument c t document host
      pure report) es x)
    (hj : j.ledger.levels = []) (hfetched : j.fetched = rows.map Prod.snd) :
    (j.after c es).ledger.levels = [] ∧
      HostEffect cutoff host endpoints (∃ r, x = .ok r) j (j.after c es) := by
  obtain ⟨f, rfl, hsave⟩ | ⟨es₁, es₂, ⟨⟩, rfl, hsave, hlast⟩ := yields_bind.1 hy
  · obtain ⟨hlevels, ⟨-, hkept⟩ | ⟨hok, -⟩⟩ := saveDocument_spec hsave hj
    · rw [hkept]
      exact ⟨hlevels, .kept rfl rfl rfl nofun⟩
    · cases hok
  · obtain ⟨rfl, rfl⟩ := yields_pure.1 hlast
    obtain ⟨hlevels, ⟨⟨f, hf⟩, -⟩ | ⟨-, hwritten⟩⟩ := saveDocument_spec hsave hj
    · cases hf
    · rw [List.append_nil, hwritten, hfetched]
      exact ⟨hlevels, .written document rows hname hold htime hspec hnews rfl rfl rfl⟩

/-- What is done once the document of the host is known and is not an uploaded one. -/
theorem refreshHost_effect {report : GenerationReport} {host : String}
    {endpoints : List Endpoint} {stored : Option Document}
    {x : Except Failure GenerationReport}
    (hstored : j.archive.document? (Document.generatedName host) = stored)
    (hgenerated : ∀ d, stored = some d → d.isGenerated = true)
    (hy : Attempt.Yields (do
      let document := stored.getD (Document.generated host)
      let (tree, merged) ←
        mergeEndpoints c t document.updatedAt cutoff document.spec 0 endpoints
      if merged = 0 && stored.isSome then pure report
      else
        s.saveDocument c t { document with spec := tree, updatedAt := some cutoff } host
        pure
          { report with
            tracesMerged := report.tracesMerged + merged
            documentsUpdated := report.documentsUpdated + 1 }) es x)
    (hj : j.ledger.levels = []) (hfetched : j.fetched = []) (hes : j.Truthful c es) :
    (j.after c es).ledger.levels = [] ∧
      HostEffect cutoff host endpoints (∃ r, x = .ok r) j (j.after c es) := by
  have hsince : (stored.getD (Document.generated host)).updatedAt =
      (j.archive.document? (Document.generatedName host)).bind Document.updatedAt := by
    rw [hstored]
    cases stored <;> rfl
  have hname : (stored.getD (Document.generated host)).name = Document.generatedName host := by
    cases stored with
    | none => rfl
    | some d => exact Archive.name_of_document? hstored
  obtain ⟨f, rfl, hmerge⟩ | ⟨es₁, es₂, ⟨tree, merged⟩, rfl, hmerge, hrest⟩ := yields_bind.1 hy
  · obtain ⟨rows, hafter, -⟩ := mergeEndpoints_spec hmerge hj hes
    rw [hafter]
    exact ⟨hj, .kept rfl rfl rfl nofun⟩
  · obtain ⟨hes₁, hes₂⟩ := Journal.truthful_append.1 hes
    obtain ⟨rows, hafter, hrows⟩ := mergeEndpoints_spec hmerge hj hes₁
    obtain ⟨hv, hperm⟩ := hrows _ rfl
    obtain ⟨rfl, rfl⟩ := Prod.mk.inj hv
    rw [hsince] at hperm
    rw [Journal.after_append, hafter, hfetched, List.nil_append]
    dsimp only at hrest
    split at hrest
    · next hnone =>
      obtain ⟨rfl, rfl⟩ := yields_pure.1 hrest
      refine ⟨hj, .kept rfl rfl rfl fun _ e he => ?_⟩
      simp only [Nat.zero_add, Bool.and_eq_true, decide_eq_true_eq] at hnone
      obtain ⟨hlength, hsome⟩ := hnone
      obtain ⟨d, rfl⟩ := Option.isSome_iff_exists.1 hsome
      obtain rfl := List.length_eq_zero_iff.1 hlength
      refine ⟨d, hstored, fun _ => ?_⟩
      -- nothing was fetched for any endpoint
      rw [hstored] at hperm
      exact List.map_eq_nil_iff.1 (List.flatMap_eq_nil_iff.1 hperm.symm.eq_nil e he)
    · let old := stored.getD (Document.generated host)
      have hspec : Document.mergeRows old.spec rows = Document.mergeRows
          ((j.archive.document? (Document.generatedName host)).getD (.generated host)).spec
          rows := by
        rw [hstored]
      obtain ⟨hlevels, heffect⟩ := saveHost_effect
        { old with spec := Document.mergeRows old.spec rows, updatedAt := some cutoff }
        (j := { j with fetched := rows.map Prod.snd }) hname
        (fun d hd => hgenerated d (hstored.symm.trans hd)) rfl hspec hperm hrest hj rfl
      exact ⟨hlevels, heffect.of_fetched⟩

/-- What is done for one host. -/
theorem generateHost_effect {report : GenerationReport} {host : String}
    {endpoints : List Endpoint} {x : Except Failure GenerationReport}
    (hy : (s.generateHost c t cutoff report host endpoints).Yields es x)
    (hj : j.ledger.levels = []) (hes : j.Truthful c es) :
    (j.after c es).ledger.levels = [] ∧
      HostEffect cutoff host endpoints (∃ r, x = .ok r) j (j.after c es) := by
  obtain ⟨f, rfl, hload⟩ | ⟨es₁, es₂, stored, rfl, hload, hrest⟩ := yields_bind.1 hy
  · obtain ⟨reply, rfl, -⟩ := yields_send.1 hload
    rw [Journal.after_cons, Journal.note_command hj, Journal.after_nil]
    exact ⟨hj, .kept rfl rfl rfl nofun⟩
  · obtain ⟨reply, rfl, hreply⟩ := yields_send.1 hload
    cases reply with
    | error err => cases hreply
    | ok found =>
      obtain rfl := Except.ok.inj hreply
      obtain ⟨⟨hanswer, -⟩, hes₂⟩ := Journal.truthful_append.1 hes
      have hstored : stored = j.archive.document? (Document.generatedName host) := hanswer
      rw [Journal.after_append]
      rw [Journal.after_cons, Journal.note_command hj, Journal.after_nil] at hes₂ ⊢
      split at hrest
      · next huploaded =>
        obtain ⟨rfl, rfl⟩ := yields_pure.1 hrest
        refine ⟨hj, .kept rfl rfl rfl fun _ e he => ?_⟩
        cases stored with
        | none => cases huploaded
        | some d =>
          refine ⟨d, hstored.symm, fun hd => ?_⟩
          rw [Option.any_some, hd] at huploaded
          cases huploaded
      · next hgenerated =>
        have hall : ∀ d, stored = some d → d.isGenerated = true := by
          intro d hd
          rw [hd, Option.any_some] at hgenerated
          simpa using hgenerated
        obtain ⟨hlevels, heffect⟩ := refreshHost_effect (j := { j with fetched := [] })
          hstored.symm hall hrest hj rfl hes₂
        exact ⟨hlevels, heffect.of_fetched⟩

end Service

/-! ## A run, seen from one host -/

theorem Document.generatedName_injective {host other : String}
    (h : generatedName host = generatedName other) : host = other := by
  have hlist := congrArg String.toList h
  rw [generatedName, generatedName, String.toList_append, String.toList_append] at hlist
  exact String.toList_inj.1 (List.append_cancel_right hlist)

/-- The document with a name is what it was, and nothing was folded into it. -/
structure Journal.Apart (name : String) (j j' : Journal) : Prop where
  document : j'.archive.document? name = j.archive.document? name
  saved : name ∈ j'.saved ↔ name ∈ j.saved
  folded : j'.foldedInto name = j.foldedInto name

theorem Journal.Apart.refl (name : String) (j : Journal) : Apart name j j := ⟨rfl, .rfl, rfl⟩

theorem Journal.Apart.trans {name : String} {j j' j'' : Journal} (h : Apart name j j')
    (h' : Apart name j' j'') : Apart name j j'' :=
  ⟨h'.document.trans h.document, h'.saved.trans h.saved, h'.folded.trans h.folded⟩

/-- The document of a host is kept, and there is no news for it if all went well, or it is written
with the news: it gets the time of the run, and what is folded into it are the new traces of the
endpoints. -/
inductive Refresh (cutoff : Instant) (host : String) (endpoints : List Endpoint)
    (finished : Prop) (j j' : Journal) : Prop
  | kept (apart : j.Apart (Document.generatedName host) j')
      (done : finished → j.archive.UpToDate host endpoints cutoff)
  | written (document : Document) (rows : List (Endpoint × Trace))
      (old : ∀ d, j.archive.document? (Document.generatedName host) = some d →
        d.isGenerated = true)
      (stored : j'.archive.document? (Document.generatedName host) = some document)
      (generated : document.isGenerated = true)
      (updatedAt : document.updatedAt = some cutoff.toColumn)
      (spec : document.spec = Document.mergeRows
        ((j.archive.document? (Document.generatedName host)).getD (.generated host)).spec rows)
      (news : rows.Perm (j.archive.news host endpoints cutoff))
      (saved : Document.generatedName host ∈ j'.saved)
      (folded : j'.foldedInto (Document.generatedName host) =
        j.foldedInto (Document.generatedName host) ++ rows.map Prod.snd)

section

variable {cutoff : Instant} {host : String} {endpoints : List Endpoint} {finished : Prop}
  {j j' j'' : Journal}

theorem Journal.foldedInto_of_append {name other : String} {traces : List Trace}
    (h : j'.folded = j.folded ++ traces.map fun trace => (other, trace)) :
    j'.foldedInto name = j.foldedInto name ++ if other = name then traces else [] := by
  rw [foldedInto, h, List.filter_append, List.map_append, foldedInto]
  refine congrArg _ ?_
  split
  · next hname => simp [hname, List.filter_map, Function.comp_def]
  · next hname => simp [hname, List.filter_map, Function.comp_def]

theorem HostEffect.apart (h : HostEffect cutoff host endpoints finished j j') {name : String}
    (hne : Document.generatedName host ≠ name) : j.Apart name j' := by
  cases h with
  | kept harchive hsaved hfolded hdone =>
    exact ⟨by rw [harchive], by rw [hsaved], by rw [Journal.foldedInto, hfolded]; rfl⟩
  | written document rows hname hold htime hspec hnews harchive hsaved hfolded =>
    rw [← hname] at hne
    refine ⟨?_, ?_, ?_⟩
    · rw [harchive, Archive.document?_link, Archive.document?_save_of_ne hne]
    · rw [hsaved, List.mem_append, List.mem_singleton]
      exact or_iff_left (Ne.symm hne)
    · rw [Journal.foldedInto_of_append hfolded, if_neg hne, List.append_nil]

theorem HostEffect.refresh (h : HostEffect cutoff host endpoints finished j j') :
    Refresh cutoff host endpoints finished j j' := by
  cases h with
  | kept harchive hsaved hfolded hdone =>
    exact .kept ⟨by rw [harchive], by rw [hsaved], by rw [Journal.foldedInto, hfolded]; rfl⟩ hdone
  | written document rows hname hold htime hspec hnews harchive hsaved hfolded =>
    have hgenerated : ∀ d, j.archive.document? document.name = some d →
        d.isGenerated = true := by rwa [hname]
    obtain ⟨d, hd, hdgenerated, hdtime, hdspec⟩ := Archive.exists_document?_save hgenerated
    refine .written d rows hold ?_ hdgenerated ?_ (hdspec.trans hspec) hnews ?_ ?_
    · rw [harchive, Archive.document?_link, ← hname, hd]
    · rw [hdtime, htime, Option.map_some]
    · rw [hsaved, hname]
      exact List.mem_append_right _ List.mem_cons_self
    · rw [Journal.foldedInto_of_append hfolded, if_pos hname]

theorem Archive.news_congr {a b : Archive} (htraces : a.traces = b.traces)
    (hdocument : a.document? (Document.generatedName host) =
      b.document? (Document.generatedName host)) :
    a.news host endpoints cutoff = b.news host endpoints cutoff := by
  rw [news, news, window_congr htraces, hdocument]

theorem Archive.upToDate_congr {a b : Archive} (htraces : a.traces = b.traces)
    (hdocument : a.document? (Document.generatedName host) =
      b.document? (Document.generatedName host)) :
    a.UpToDate host endpoints cutoff ↔ b.UpToDate host endpoints cutoff := by
  rw [UpToDate, UpToDate, window_congr htraces, hdocument]

/-- What was done before for other hosts does not matter. -/
theorem Refresh.of_apart (h : j.Apart (Document.generatedName host) j')
    (htraces : j'.archive.traces = j.archive.traces)
    (h' : Refresh cutoff host endpoints finished j' j'') :
    Refresh cutoff host endpoints finished j j'' := by
  cases h' with
  | kept hapart hdone =>
    refine .kept (h.trans hapart) fun hfinished => ?_
    exact (Archive.upToDate_congr htraces h.document).1 (hdone hfinished)
  | written document rows hold hstored hgenerated htime hspec hnews hsaved hfolded =>
    rw [h.document] at hold hspec
    rw [Archive.news_congr htraces h.document] at hnews
    rw [h.folded] at hfolded
    exact .written document rows hold hstored hgenerated htime hspec hnews hsaved hfolded

/-- What is done afterwards for other hosts does not matter. -/
theorem Refresh.apart (h : Refresh cutoff host endpoints finished j j')
    (h' : j'.Apart (Document.generatedName host) j'') :
    Refresh cutoff host endpoints finished j j'' := by
  cases h with
  | kept hapart hdone => exact .kept (hapart.trans h') hdone
  | written document rows hold hstored hgenerated htime hspec hnews hsaved hfolded =>
    exact .written document rows hold (h'.document.trans hstored) hgenerated htime hspec hnews
      (h'.saved.2 hsaved) (h'.folded.trans hfolded)

theorem Refresh.mono {finished' : Prop} (h : Refresh cutoff host endpoints finished j j')
    (himp : finished' → finished) : Refresh cutoff host endpoints finished' j j' := by
  cases h with
  | kept hapart hdone => exact .kept hapart fun h => hdone (himp h)
  | written document rows hold hstored hgenerated htime hspec hnews hsaved hfolded =>
    exact .written document rows hold hstored hgenerated htime hspec hnews hsaved hfolded

/-- What is known of the rows of a table does not depend on their order. -/
theorem Refresh.of_perm {endpoints' : List Endpoint}
    (h : Refresh cutoff host endpoints finished j j') (hperm : endpoints.Perm endpoints') :
    Refresh cutoff host endpoints' finished j j' := by
  cases h with
  | kept hapart hdone =>
    exact .kept hapart fun hfinished e he => hdone hfinished e (hperm.mem_iff.2 he)
  | written document rows hold hstored hgenerated htime hspec hnews hsaved hfolded =>
    exact .written document rows hold hstored hgenerated htime hspec
      (hnews.trans (hperm.flatMap_right _)) hsaved hfolded

end

namespace Service

variable {s : Service} {c : ConnectionId} {t : Tenant} {cutoff : Instant} {j : Journal}
  {es : List Event}

/-- The hosts are treated one after another, and each only once. -/
theorem generateHosts_refreshes {report : GenerationReport}
    {groups : List (String × List Endpoint)} (hgroups : (Dict.keys groups).Nodup)
    {x : Except Failure GenerationReport}
    (hy : (s.generateHosts c t cutoff report groups).Yields es x) (hj : j.ledger.levels = [])
    (hes : j.Truthful c es) :
    (∀ host, host ∉ Dict.keys groups →
      j.Apart (Document.generatedName host) (j.after c es)) ∧
    ∀ host endpoints, (host, endpoints) ∈ groups →
      Refresh cutoff host endpoints (∃ r, x = .ok r) j (j.after c es) := by
  induction groups generalizing report j es with
  | nil =>
    obtain ⟨rfl, rfl⟩ := yields_pure.1 hy
    exact ⟨fun host _ => .refl _ _, nofun⟩
  | cons group groups ih =>
    obtain ⟨first, members⟩ := group
    obtain ⟨hfirst, hgroups⟩ := List.nodup_cons.1 hgroups
    have hother : ∀ {host}, host ≠ first →
        Document.generatedName first ≠ Document.generatedName host :=
      fun hne heq => hne (Document.generatedName_injective heq).symm
    have hmem : ∀ {host endpoints}, (host, endpoints) ∈ groups → host ≠ first := by
      rintro host endpoints hin rfl
      exact hfirst (List.mem_map.2 ⟨_, hin, rfl⟩)
    obtain ⟨f, rfl, hhost⟩ | ⟨es₁, es₂, report', rfl, hhost, hrest⟩ := yields_bind.1 hy
    · -- the run ends with this host
      obtain ⟨-, heffect⟩ := generateHost_effect hhost hj hes
      refine ⟨fun host hnot => heffect.apart (hother ?_), fun host endpoints hin => ?_⟩
      · rintro rfl
        exact hnot List.mem_cons_self
      · rcases List.mem_cons.1 hin with heq | hin
        · obtain ⟨rfl, rfl⟩ := Prod.mk.inj heq
          exact heffect.refresh
        · exact .kept (heffect.apart (hother (hmem hin))) nofun
    · obtain ⟨hes₁, hes₂⟩ := Journal.truthful_append.1 hes
      obtain ⟨hlevels, heffect⟩ := generateHost_effect hhost hj hes₁
      obtain ⟨hapart, hrefresh⟩ := ih hgroups hrest hlevels hes₂
      rw [Journal.after_append]
      refine ⟨fun host hnot => ?_, fun host endpoints hin => ?_⟩
      · obtain ⟨hne, hnot⟩ := not_or.1 (mt List.mem_cons.2 hnot)
        exact (heffect.apart (hother hne)).trans (hapart host hnot)
      · rcases List.mem_cons.1 hin with heq | hin
        · obtain ⟨rfl, rfl⟩ := Prod.mk.inj heq
          exact (heffect.refresh.mono fun _ => ⟨_, rfl⟩).apart (hapart _ hfirst)
        · exact (hrefresh host endpoints hin).of_apart (heffect.apart (hother (hmem hin)))
            (Journal.traces_after _)

/-- All endpoints of a host are treated together. -/
theorem generateHosts_byHost {report : GenerationReport} {rows : List Endpoint}
    {x : Except Failure GenerationReport}
    (hy : (s.generateHosts c t cutoff report (endpointsByHost rows)).Yields es x)
    (hj : j.ledger.levels = []) (hes : j.Truthful c es) (host : String) :
    Refresh cutoff host (rows.filter fun e => e.host == host) (∃ r, x = .ok r) j
      (j.after c es) := by
  obtain ⟨hapart, hrefresh⟩ := generateHosts_refreshes
    (ordered_endpointsByHost rows).nodup_keys hy hj hes
  by_cases hhost : host ∈ Dict.keys (endpointsByHost rows)
  · obtain ⟨⟨_, group⟩, hgroup, rfl⟩ := List.mem_map.1 hhost
    rw [← group_eq_filter hgroup]
    exact hrefresh _ group hgroup
  · rw [filter_eq_nil_of_notMem hhost]
    exact .kept (hapart host hhost) fun _ e he => absurd he List.not_mem_nil

/-- **What a run does for a host is done once, for all the endpoints of the host that have no
uploaded document.** -/
theorem generate_refreshes {a : Archive} {checkout : Except DatabaseError ConnectionId}
    {outcome : Except Failure GenerationReport}
    (hy : (s.generate t).Yields (⟨.now, cutoff⟩ :: ⟨.checkout, checkout⟩ :: es) outcome)
    (hc : ∀ d, checkout = .ok d → d = c) (hes : Journal.Truthful c { archive := a } es)
    (host : String) :
    Refresh cutoff host (a.undocumented.filter fun e => e.host == host) (∃ r, outcome = .ok r)
      { archive := a } (Journal.after c { archive := a } es) := by
  obtain ⟨f, -, hnow⟩ | ⟨es₁, es₂, now, hcons, hnow, hrun⟩ := yields_bind.1 hy
  · obtain ⟨reply, -, hreply⟩ := yields_ask.1 hnow
    cases hreply
  obtain ⟨reply, rfl, hreply⟩ := yields_ask.1 hnow
  cases hreply
  cases hcons
  obtain ⟨e, he, rfl⟩ | ⟨d, inside, he, hbody⟩ := yields_withConnection hrun
  · cases he
    exact .kept (.refl _ _) nofun
  · cases he
    obtain rfl : d = c := hc d rfl
    obtain ⟨hinside, -⟩ := Journal.truthful_append.1 hes
    rw [Journal.after_append, Journal.after_cons, Journal.after_nil, Journal.note_giveBack]
    obtain ⟨f, rfl, hlist⟩ | ⟨es₁, es₂, rows, rfl, hlist, hrest⟩ := yields_bind.1 hbody
    · obtain ⟨reply, rfl, -⟩ := yields_send.1 hlist
      rw [Journal.after_cons, Journal.note_command rfl]
      exact .kept (.refl _ _) nofun
    · obtain ⟨reply, rfl, hreply⟩ := yields_send.1 hlist
      cases reply with
      | error err => cases hreply
      | ok listed =>
        obtain rfl := Except.ok.inj hreply
        obtain ⟨⟨hanswer, -⟩, hes₂⟩ := Journal.truthful_append.1 hinside
        have hrows : List.Perm rows a.undocumented := hanswer
        rw [Journal.after_append]
        rw [Journal.after_cons, Journal.note_command rfl, Journal.after_nil] at hes₂ ⊢
        exact (generateHosts_byHost hrest rfl hes₂ host).of_perm (hrows.filter _)

end Service

end TrafficLens
