import TrafficLens.Proofs.Instant.Hour
import TrafficLens.Proofs.Program.Ledger

/-!
# The tables that documents are generated from

An `Archive` holds the rows of a schema that the generation of documents reads and writes:
endpoints, traces and documents. `Archive.Answers` says that a reply is what these rows say, and
`Archive.apply` what a statement makes of them. `Archive.Sound` lists what the schema demands of its
rows.

Rows are never taken back. An archive *persists* in a later one if the later one has its endpoints,
its traces with their times and links, and its documents (`Archive.Persists`).
-/

namespace TrafficLens

/-! ## Times in columns -/

namespace Instant

theorem stamp_toColumn_le {t u : Instant} (h : t.stamp ≤ u.stamp) :
    t.toColumn.stamp ≤ u.toColumn.stamp := by
  have hmicros : (t.stamp - columnEpoch * nanosPerSecond).tdiv 1000 ≤
      (u.stamp - columnEpoch * nanosPerSecond).tdiv 1000 :=
    Int.tdiv_le_tdiv (by decide) (Int.sub_le_sub_right h _)
  rw [toColumn, toColumn, stamp_ofStamp, stamp_ofStamp]
  omega

/-- A column holds what it was given from a column. -/
theorem stamp_toColumn_toColumn (t : Instant) : t.toColumn.toColumn.stamp = t.toColumn.stamp := by
  have hmicros : ∀ e n : Int, (e + n.tdiv 1000 * 1000 - e).tdiv 1000 = n.tdiv 1000 := by
    intro e n
    have hcancel : e + n.tdiv 1000 * 1000 - e = n.tdiv 1000 * 1000 := by omega
    rw [hcancel, Int.mul_tdiv_cancel _ (by decide)]
  rw [toColumn, stamp_ofStamp, toColumn, stamp_ofStamp, hmicros]

end Instant

/-! ## The tables -/

/-- The rows of a schema that documents are generated from. -/
structure Archive where
  endpoints : List Endpoint
  traces : List Trace
  documents : List Document := []

namespace Archive

/-- The document with a name. -/
def document? (a : Archive) (name : String) : Option Document :=
  a.documents.find? fun d => d.name == name

/-- The generated document with a name, unless an uploaded one has it. -/
def generated? (a : Archive) (name : String) : Option Document :=
  (a.document? name).filter Document.isGenerated

/-- Is the endpoint without an uploaded document? -/
def isUndocumented (a : Archive) (e : Endpoint) : Bool :=
  match e.documentName with
  | none => true
  | some name => (a.document? name).any Document.isGenerated

/-- The endpoint with what its document says about it. -/
def joined (a : Archive) (e : Endpoint) : Endpoint :=
  { e with
    documentGenerated := (e.documentName.bind a.document?).map Document.isGenerated }

/-- The endpoints without an uploaded document. -/
def undocumented (a : Archive) : List Endpoint := (a.endpoints.filter a.isUndocumented).map a.joined

/-- Does a time lie after one time and not after another? Columns and parameters hold
microseconds. -/
def inWindow (since : Option Instant) (cutoff time : Instant) : Bool :=
  (since.all fun s => decide (s.toColumn.stamp < time.stamp)) &&
    decide (time.stamp ≤ cutoff.toColumn.stamp)

/-- The traces of an endpoint after one time and up to another. -/
def window (a : Archive) (endpointId : Uuid) (since : Option Instant) (cutoff : Instant) :
    List Trace :=
  a.traces.filter fun trace =>
    trace.endpointId == some endpointId && inWindow since cutoff trace.createdAt

/-- The reply says what is in the tables. Every request to the database may be refused. -/
def Answers (a : Archive) : Event → Prop
  | ⟨.command _ _ .listUndocumented, .ok (rows : List Endpoint)⟩ => rows.Perm a.undocumented
  | ⟨.command _ _ (.loadDocument name), .ok (found : Option Document)⟩ => found = a.document? name
  | ⟨.command _ _ (.fetchSince id since cutoff), .ok (rows : List Trace)⟩ =>
    rows.Perm (a.window id since cutoff)
  | _ => True

/-! ### What statements do -/

/-- A stored document after a generated one was stored under its name. An uploaded document is left
alone. -/
def renew (d old : Document) : Document :=
  if old.name = d.name ∧ old.isGenerated = true then
    { old with spec := d.spec, updatedAt := d.updatedAt.map Instant.toColumn }
  else old

/-- A generated document in a row of its own. -/
def asRow (d : Document) : Document :=
  { d with isGenerated := true, updatedAt := d.updatedAt.map Instant.toColumn }

/-- Store a generated document, unless an uploaded one has its name. -/
def save (a : Archive) (d : Document) : Archive :=
  { a with
    documents := a.documents.map (renew d) ++
      if (a.document? d.name).isSome then [] else [asRow d] }

/-- Link the endpoints of a host to a document, except those that are linked to another one. -/
def link (a : Archive) (name host : String) : Archive :=
  { a with
    endpoints := a.endpoints.map fun e =>
      if e.host == host && (e.documentName.isNone || e.documentName == some name) then
        { e with documentName := some name }
      else e }

/-- What a statement makes of the tables. -/
def apply (a : Archive) : Sent → Archive
  | ⟨_, .saveDocument d, .ok _⟩ => a.save d
  | ⟨_, .linkDocument name host, .ok _⟩ => a.link name host
  | _ => a

/-- What statements make of the tables, one after another. -/
def settle (a : Archive) (work : List Sent) : Archive := work.foldl apply a

/-- What the schema demands of its rows: identifiers are not repeated, what is referred to is there,
and times are in whole microseconds. -/
structure Sound (a : Archive) : Prop where
  endpointIds : (a.endpoints.map Endpoint.id).Nodup
  traceIds : (a.traces.map Trace.id).Nodup
  traceEndpoint : ∀ trace ∈ a.traces, ∀ id ∈ trace.endpointId, ∃ e ∈ a.endpoints, e.id = id
  endpointDocument : ∀ e ∈ a.endpoints, ∀ name ∈ e.documentName, (a.document? name).isSome = true
  createdAt : ∀ trace ∈ a.traces, trace.createdAt.toColumn = trace.createdAt

instance (a : Archive) : Decidable a.Sound :=
  decidable_of_iff
    ((a.endpoints.map Endpoint.id).Nodup ∧ (a.traces.map Trace.id).Nodup ∧
      (∀ trace ∈ a.traces, ∀ id ∈ trace.endpointId, ∃ e ∈ a.endpoints, e.id = id) ∧
      (∀ e ∈ a.endpoints, ∀ name ∈ e.documentName, (a.document? name).isSome = true) ∧
      ∀ trace ∈ a.traces, trace.createdAt.toColumn = trace.createdAt)
    ⟨fun ⟨hendpoints, htraces, hlink, hname, htime⟩ => ⟨hendpoints, htraces, hlink, hname, htime⟩,
      fun h => ⟨h.endpointIds, h.traceIds, h.traceEndpoint, h.endpointDocument, h.createdAt⟩⟩

variable {a b c : Archive} {d : Document} {name host : String}

theorem name_of_document? (h : a.document? name = some d) : d.name = name := by
  have hname := List.find?_some h
  simpa using hname

/-! ### Documents -/

theorem generated?_eq_some :
    a.generated? name = some d ↔ a.document? name = some d ∧ d.isGenerated = true :=
  Option.filter_eq_some_iff

theorem generated?_eq_document? (h : ∀ d, a.document? name = some d → d.isGenerated = true) :
    a.generated? name = a.document? name := by
  rw [generated?]
  cases hd : a.document? name with
  | none => rfl
  | some d => exact Option.filter_some_pos (h d hd)

theorem name_renew (d old : Document) : (renew d old).name = old.name := by
  rw [renew]
  split <;> rfl

theorem isGenerated_renew (d old : Document) : (renew d old).isGenerated = old.isGenerated := by
  rw [renew]
  split <;> rfl

/-- What is found under a name after a document was stored. -/
theorem document?_save (a : Archive) (d : Document) (name : String) :
    (a.save d).document? name =
      ((a.document? name).map (renew d)).or
        (if (a.document? d.name).isSome then none
         else if d.name = name then some (asRow d) else none) := by
  have hname : ((fun old : Document => old.name == name) ∘ renew d) = fun old => old.name == name := by
    funext old
    rw [Function.comp_apply, name_renew]
  rw [document?, save, List.find?_append, List.find?_map, hname, ← document?]
  refine congrArg _ ?_
  split
  · rfl
  · have hrow : (asRow d).name = d.name := rfl
    by_cases h : d.name = name <;> simp [hrow, h]

theorem document?_save_of_ne (h : d.name ≠ name) :
    (a.save d).document? name = a.document? name := by
  rw [document?_save, if_neg h, ite_self, Option.or_none]
  cases hold : a.document? name with
  | none => rfl
  | some old =>
    have hne : ¬ (old.name = d.name ∧ old.isGenerated = true) := by
      rintro ⟨hname, -⟩
      exact h (hname.symm.trans (name_of_document? hold))
    rw [Option.map_some, renew, if_neg hne]

/-- A document that is stored is found under its name, unless an uploaded one is. -/
theorem exists_document?_save
    (h : ∀ old, a.document? d.name = some old → old.isGenerated = true) :
    ∃ new, (a.save d).document? d.name = some new ∧ new.isGenerated = true ∧
      new.updatedAt = d.updatedAt.map Instant.toColumn ∧ new.spec = d.spec := by
  rw [document?_save]
  cases hold : a.document? d.name with
  | none =>
    rw [Option.isSome_none, if_neg Bool.false_ne_true, if_pos rfl]
    exact ⟨asRow d, rfl, rfl, rfl, rfl⟩
  | some old =>
    have hrenew : old.name = d.name ∧ old.isGenerated = true :=
      ⟨name_of_document? hold, h old hold⟩
    rw [Option.map_some, Option.some_or]
    refine ⟨renew d old, rfl, (isGenerated_renew d old).trans hrenew.2, ?_, ?_⟩
    · rw [renew, if_pos hrenew]
    · rw [renew, if_pos hrenew]

@[simp] theorem document?_link (a : Archive) (name host other : String) :
    (a.link name host).document? other = a.document? other := rfl

theorem traces_settle (a : Archive) (work : List Sent) : (a.settle work).traces = a.traces := by
  induction work generalizing a with
  | nil => rfl
  | cons s work ih =>
    refine (ih (a.apply s)).trans ?_
    unfold apply
    split <;> rfl

/-- The window depends on the traces only. -/
theorem window_congr (h : a.traces = b.traces) : a.window = b.window := by
  funext id since cutoff
  rw [window, window, h]

/-! ### Tables over time -/

/-- Everything that is in the first tables is in the second ones: endpoints may get a document, and
traces an endpoint. -/
structure Persists (a b : Archive) : Prop where
  endpoint : ∀ e ∈ a.endpoints, ∃ e' ∈ b.endpoints, e'.id = e.id ∧ e'.host = e.host ∧
    ∀ name, e.documentName = some name → e'.documentName = some name
  trace : ∀ trace ∈ a.traces, ∃ trace' ∈ b.traces, trace'.id = trace.id ∧
    trace'.createdAt = trace.createdAt ∧
      ∀ id, trace.endpointId = some id → trace'.endpointId = some id
  document : ∀ name d, a.document? name = some d →
    ∃ d', b.document? name = some d' ∧ d'.isGenerated = d.isGenerated

theorem Persists.refl (a : Archive) : a.Persists a where
  endpoint e he := ⟨e, he, rfl, rfl, fun _ h => h⟩
  trace trace h := ⟨trace, h, rfl, rfl, fun _ h => h⟩
  document _ d h := ⟨d, h, rfl⟩

theorem Persists.trans (h : a.Persists b) (h' : b.Persists c) : a.Persists c where
  endpoint e he := by
    obtain ⟨e', he', hid, hhost, hname⟩ := h.endpoint e he
    obtain ⟨e'', he'', hid', hhost', hname'⟩ := h'.endpoint e' he'
    exact ⟨e'', he'', hid'.trans hid, hhost'.trans hhost, fun n hn => hname' n (hname n hn)⟩
  trace trace htrace := by
    obtain ⟨trace', htrace', hid, htime, hlink⟩ := h.trace trace htrace
    obtain ⟨trace'', htrace'', hid', htime', hlink'⟩ := h'.trace trace' htrace'
    exact ⟨trace'', htrace'', hid'.trans hid, htime'.trans htime,
      fun id hid => hlink' id (hlink id hid)⟩
  document n d hd := by
    obtain ⟨d', hd', hsame⟩ := h.document n d hd
    obtain ⟨d'', hd'', hsame'⟩ := h'.document n d' hd'
    exact ⟨d'', hd'', hsame'.trans hsame⟩

theorem persists_save (a : Archive) (d : Document) : a.Persists (a.save d) where
  endpoint e he := ⟨e, he, rfl, rfl, fun _ h => h⟩
  trace trace h := ⟨trace, h, rfl, rfl, fun _ h => h⟩
  document _ old h := by
    rw [document?_save, h]
    exact ⟨renew d old, rfl, isGenerated_renew d old⟩

theorem persists_link (a : Archive) (name host : String) : a.Persists (a.link name host) where
  endpoint e he := by
    refine ⟨_, List.mem_map_of_mem he, ?_⟩
    split
    · next hlink =>
      refine ⟨rfl, rfl, fun n hn => ?_⟩
      simp only [hn, Bool.and_eq_true, Option.isNone_some, Bool.false_or, beq_iff_eq] at hlink
      exact hlink.2.symm
    · exact ⟨rfl, rfl, fun _ h => h⟩
  trace trace h := ⟨trace, h, rfl, rfl, fun _ h => h⟩
  document _ d h := ⟨d, h, rfl⟩

/-- **Statements take nothing back.** -/
theorem persists_settle (a : Archive) (work : List Sent) : a.Persists (a.settle work) := by
  induction work generalizing a with
  | nil => exact .refl a
  | cons s work ih =>
    refine Persists.trans ?_ (ih (a.apply s))
    unfold apply
    split
    · exact persists_save ..
    · exact persists_link ..
    · exact .refl a

/-- An endpoint without an uploaded document never had one. -/
theorem Persists.isUndocumented (h : a.Persists b) (ha : a.Sound) {e e' : Endpoint}
    (he : e ∈ a.endpoints) (hname : ∀ n, e.documentName = some n → e'.documentName = some n)
    (he' : b.isUndocumented e' = true) : a.isUndocumented e = true := by
  rw [Archive.isUndocumented]
  split
  · rfl
  · next n hn =>
    obtain ⟨d, hd⟩ := Option.isSome_iff_exists.1 (ha.endpointDocument e he n hn)
    obtain ⟨d', hd', hsame⟩ := h.document n d hd
    rw [Archive.isUndocumented, hname n hn] at he'
    dsimp only at he'
    rw [hd', Option.any_some, hsame] at he'
    rw [hd, Option.any_some, he']

end Archive

end TrafficLens
